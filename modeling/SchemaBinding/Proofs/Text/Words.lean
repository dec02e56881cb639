import Mathlib.Data.List.Basic
import SchemaBinding.Proofs.Text.Casing
import SchemaBinding.Schema.Names

/-!
# `SchemaBinding.Proofs.Text.Words`: what is left of a name in another form

A name in snake case or in Pascal case is made of its letters and numbers (`Text.letters`), in order and in another letter
case. Everything else of the name is lost: `flatten_nameWords` says that the words of a name are its letters cut into
parts. So what all characters of such a form are like, and what the first one is like, can be seen from the letters
(`all_snakeCase`, `head?_snakeCase`, `all_pascalCase`, `head?_pascalCase`).

Letters are not lost when a name is cleaned (`letters_cleanup`).
-/

set_option autoImplicit false

namespace SchemaBinding.Text

/-- The letters and numbers of a name. -/
def letters (name : String) : List Char := name.toList.filter isAlphanumeric

theorem letters_append (first second : String) : letters (first ++ second) = letters first ++ letters second := by
  rw [letters, String.toList_append, List.filter_append]
  rfl

set_option maxRecDepth 10000 in
/-- Cleaning a name replaces characters that are no letters by one that is none. -/
theorem letters_cleanup (name : String) : letters (cleanup name) = letters name := by
  have hmarks : isAlphanumeric ':' = false ∧ isAlphanumeric '-' = false ∧ isAlphanumeric '.' = false := by decide
  have hchar : ∀ c, [cleanupChar c].filter isAlphanumeric = [c].filter isAlphanumeric := by
    intro c
    unfold cleanupChar
    split
    · rename_i hmark
      rcases (by simpa using hmark : (c = ':' ∨ c = '-') ∨ c = '.') with (rfl | rfl) | rfl <;>
        simp [hmarks, isAlphanumeric_underscore]
    · rfl
  rw [letters, letters, cleanup, String.toList_ofList]
  induction name.toList with
  | nil => rfl
  | cons c rest ih =>
      rw [List.map_cons, ← List.singleton_append, List.filter_append, hchar, ih, ← List.filter_append, List.singleton_append]

/-! ### Words -/

theorem flatten_runsOf (p : Char → Bool) (cs : List Char) : (runsOf p cs).flatten = cs.filter p := by
  fun_induction runsOf p cs with
  | case1 => rfl
  | case2 c hc => simp [hc]
  | case3 c hc => simp [hc]
  | case4 c d rest hc hd hruns ih =>
      rw [hruns] at ih
      rw [List.filter_cons_of_pos hc, ← ih]
      rfl
  | case5 c d rest hc hd first runs hruns ih =>
      rw [hruns] at ih
      rw [List.filter_cons_of_pos hc, ← ih]
      rfl
  | case6 c d rest hc hd ih => rw [List.filter_cons_of_pos hc, List.flatten_cons, ih, List.singleton_append]
  | case7 c d rest hc ih => rw [List.filter_cons_of_neg hc, ih]

/-- A run is cut into words, behind what is open before it. -/
theorem flatten_caseWords (case : WordCase) (word : List Char) {cs : List Char} (hcs : cs ≠ []) :
    (caseWords case word cs).flatten = word.reverse ++ cs := by
  fun_induction caseWords case word cs with
  | case1 => exact absurd rfl hcs
  | case2 => simp
  | case3 case word c next rest hlower ih => simp [ih]
  | case4 case word c next rest hlower hupper ih => simp [ih]
  | case5 case word c next rest hlower hupper ih => simp [ih]

theorem flatten_nameWords (name : String) : (nameWords name).flatten = letters name := by
  have hruns : ∀ runs : List (List Char), (∀ run ∈ runs, run ≠ []) →
      (runs.flatMap (caseWords .none [])).flatten = runs.flatten := by
    intro runs hruns
    induction runs with
    | nil => rfl
    | cons run rest ih =>
        rw [List.forall_mem_cons] at hruns
        rw [List.flatMap_cons, List.flatten_append, flatten_caseWords .none [] hruns.1, ih hruns.2, List.reverse_nil,
          List.nil_append, List.flatten_cons]
  rw [nameWords, hruns _ fun run hrun => (runsOf_spec hrun).1, flatten_runsOf]
  rfl

/-! ### All characters -/

section all

variable {p : Char → Bool}

theorem all_lowerWord (hlower : ∀ c, (CaseMap.lower c).all p = p c) (hsigma : p 'ς' = p 'Σ') (word : List Char) :
    (lowerWord word).all p = word.all p := by
  fun_induction lowerWord word with
  | case1 => rfl
  | case2 => simpa using hsigma
  | case3 c hc => simpa using hlower c
  | case4 c rest hrest ih => rw [List.all_append, hlower, ih, List.all_cons]

theorem all_capitalWord (hlower : ∀ c, (CaseMap.lower c).all p = p c) (hupper : ∀ c, (CaseMap.upper c).all p = p c)
    (hsigma : p 'ς' = p 'Σ') (word : List Char) : (capitalWord word).all p = word.all p := by
  cases word with
  | nil => rfl
  | cons c rest => rw [capitalWord, List.all_append, hupper, all_lowerWord hlower hsigma, List.all_cons]

theorem all_intercalate {sep : Char} (hsep : p sep = true) (parts : List (List Char)) :
    ([sep].intercalate parts).all p = parts.all (·.all p) := by
  induction parts with
  | nil => rfl
  | cons part rest ih =>
      cases rest with
      | nil => simp
      | cons next rest =>
          rw [List.intercalate_cons_cons, List.all_append, List.all_append, ih, List.all_cons (l := next :: rest)]
          simp [hsep]

theorem all_snakeCase (hunderscore : p '_' = true) (hlower : ∀ c, (CaseMap.lower c).all p = p c)
    (hsigma : p 'ς' = p 'Σ') (name : String) : (snakeCase name).toList.all p = (letters name).all p := by
  rw [snakeCase, String.toList_ofList, all_intercalate hunderscore, List.all_map, ← flatten_nameWords, List.all_flatten]
  exact congrArg (nameWords name).all (funext (all_lowerWord hlower hsigma))

theorem all_pascalCase (hlower : ∀ c, (CaseMap.lower c).all p = p c) (hupper : ∀ c, (CaseMap.upper c).all p = p c)
    (hsigma : p 'ς' = p 'Σ') (name : String) : (pascalCase name).toList.all p = (letters name).all p := by
  rw [pascalCase, String.toList_ofList, List.all_flatMap, ← flatten_nameWords, List.all_flatten]
  exact congrArg (nameWords name).all (funext (all_capitalWord hlower hupper hsigma))

end all

/-! ### The first character -/

theorem head?_lowerWord {p : Char → Bool} (hlower : ∀ c, (CaseMap.lower c).head?.any p = p c) (hsigma : p 'ς' = p 'Σ')
    (c : Char) (rest : List Char) : (lowerWord (c :: rest)).head?.any p = p c := by
  cases rest with
  | nil =>
      unfold lowerWord
      split
      · rename_i hc
        rw [hc]
        exact hsigma
      · exact hlower c
  | cons next rest =>
      rw [lowerWord, List.head?_append_of_ne_nil _ (CaseMap.lower_ne_nil c)]
      · exact hlower c
      · exact List.cons_ne_nil _ _

/-- The words of a name, where it has any letters. The first word begins with the first letter. -/
theorem nameWords_of_letters {name : String} {c : Char} {rest : List Char} (h : letters name = c :: rest) :
    ∃ word words, nameWords name = (c :: word) :: words := by
  rw [← flatten_nameWords] at h
  cases hwords : nameWords name with
  | nil =>
      rw [hwords] at h
      cases h
  | cons first words =>
      cases first with
      | nil => exact absurd rfl (nameWords_spec (hwords ▸ List.mem_cons_self)).1
      | cons d word =>
          rw [hwords, List.flatten_cons, List.cons_append, List.cons.injEq] at h
          exact ⟨word, words, by rw [h.1]⟩

theorem nameWords_of_no_letters {name : String} (h : letters name = []) : nameWords name = [] := by
  rw [← flatten_nameWords, List.flatten_eq_nil_iff] at h
  refine List.eq_nil_iff_forall_not_mem.mpr fun word hword => ?_
  exact (nameWords_spec hword).1 (h word hword)

theorem head?_snakeCase {p : Char → Bool} (hlower : ∀ c, (CaseMap.lower c).head?.any p = p c) (hsigma : p 'ς' = p 'Σ')
    (name : String) : (snakeCase name).toList.head?.any p = (letters name).head?.any p := by
  rw [snakeCase, String.toList_ofList]
  cases hletters : letters name with
  | nil =>
      rw [nameWords_of_no_letters hletters]
      rfl
  | cons c rest =>
      obtain ⟨word, words, hwords⟩ := nameWords_of_letters hletters
      have hfirst : lowerWord (c :: word) ≠ [] := lowerWord_ne_nil (List.cons_ne_nil _ _)
      have hhead : (['_'].intercalate ((nameWords name).map lowerWord)).head? = (lowerWord (c :: word)).head? := by
        rw [hwords, List.map_cons]
        cases words with
        | nil => rw [List.map_nil, List.intercalate_singleton]
        | cons next words => rw [List.map_cons, List.intercalate_cons_cons, List.append_assoc, List.head?_append_of_ne_nil _ hfirst]
      rw [hhead, head?_lowerWord hlower hsigma]
      rfl

/-- The first character in Pascal case is that of the first letter in uppercase. -/
theorem head?_pascalCase (name : String) :
    (pascalCase name).toList.head? = (letters name).head?.bind fun c => (CaseMap.upper c).head? := by
  rw [pascalCase, String.toList_ofList]
  cases hletters : letters name with
  | nil =>
      rw [nameWords_of_no_letters hletters]
      rfl
  | cons c rest =>
      obtain ⟨word, words, hwords⟩ := nameWords_of_letters hletters
      rw [hwords, List.flatMap_cons, capitalWord, List.append_assoc, List.head?_append_of_ne_nil _ (CaseMap.upper_ne_nil c)]
      rfl

end SchemaBinding.Text
