import SchemaBinding.Text.Casing
import SchemaBinding.Proofs.Text.CaseMap

/-!
# `SchemaBinding.Proofs.Text.Casing`: underscores in names made of words

The words of a name are made of letters and numbers, and so are the same words in another letter case, as far as
underscores go: no table of case mappings leads to one. So an underscore in snake case stands between two words, and
there is none in Pascal case. Neither ends with one (`getLast?_snakeCase`, `getLast?_pascalCase`).
-/

set_option autoImplicit false

namespace SchemaBinding

namespace Text

/-! ### Words -/

set_option maxRecDepth 20000 in
theorem isAlphanumeric_underscore : isAlphanumeric '_' = false := by decide

theorem runsOf_spec {p : Char → Bool} {cs run : List Char} (h : run ∈ runsOf p cs) : run ≠ [] ∧ ∀ c ∈ run, p c = true := by
  fun_induction runsOf p cs generalizing run with
  | case1 => cases h
  | case2 c hc => simp_all
  | case3 c hc => cases h
  | case4 c d rest hc hd hruns ih => simp_all
  | case5 c d rest hc hd first runs hruns ih =>
      rcases List.mem_cons.mp h with rfl | h
      · have hfirst := (ih (by rw [hruns]; exact List.mem_cons_self)).2
        exact ⟨List.cons_ne_nil _ _, List.forall_mem_cons.mpr ⟨hc, hfirst⟩⟩
      · exact ih (by rw [hruns]; exact List.mem_cons_of_mem _ h)
  | case6 c d rest hc hd ih =>
      rcases List.mem_cons.mp h with rfl | h
      · simp [hc]
      · exact ih h
  | case7 c d rest hc ih => exact ih h

/-- Words are cut out of a run: they are not empty, and their characters are those of the run and of the word that is
open before it. -/
theorem caseWords_spec {case : WordCase} {open' cs word : List Char} (hopen : case = .upper → open' ≠ [])
    (h : word ∈ caseWords case open' cs) : word ≠ [] ∧ ∀ c ∈ word, c ∈ open' ∨ c ∈ cs := by
  fun_induction caseWords case open' cs with
  | case1 => cases h
  | case2 case open' c =>
      rw [List.mem_singleton.mp h]
      simp [or_comm]
  | case3 case open' c next rest hlower ih =>
      rcases List.mem_cons.mp h with rfl | h
      · simp only [ne_eq, List.reverse_eq_nil_iff, reduceCtorEq, not_false_eq_true, List.mem_reverse, List.mem_cons,
          true_and]
        rintro x (rfl | hx)
        · exact Or.inr (Or.inl rfl)
        · exact Or.inl hx
      · obtain ⟨hne, hmem⟩ := ih (by simp) h
        exact ⟨hne, fun x hx => Or.inr (List.mem_cons_of_mem _ ((hmem x hx).resolve_left List.not_mem_nil))⟩
  | case4 case open' c next rest hlower hupper ih =>
      have hcase : case = .upper := by simp_all
      rcases List.mem_cons.mp h with rfl | h
      · exact ⟨by simpa using hopen hcase, fun x hx => Or.inl (List.mem_reverse.mp hx)⟩
      · obtain ⟨hne, hmem⟩ := ih (by simp) h
        refine ⟨hne, fun x hx => Or.inr ?_⟩
        rcases hmem x hx with hx | hx
        · exact List.mem_singleton.mp hx ▸ List.mem_cons_self
        · exact List.mem_cons_of_mem _ hx
  | case5 case open' c next rest hlower hupper ih =>
      obtain ⟨hne, hmem⟩ := ih (by simp) h
      refine ⟨hne, fun x hx => ?_⟩
      rcases hmem x hx with hx | hx
      · rcases List.mem_cons.mp hx with rfl | hx
        · exact Or.inr List.mem_cons_self
        · exact Or.inl hx
      · exact Or.inr (List.mem_cons_of_mem _ hx)

theorem nameWords_spec {name : String} {word : List Char} (h : word ∈ nameWords name) : word ≠ [] ∧ '_' ∉ word := by
  obtain ⟨run, hrun, hword⟩ := List.mem_flatMap.mp h
  obtain ⟨hne, hmem⟩ := caseWords_spec (by simp) hword
  refine ⟨hne, fun hunderscore => ?_⟩
  have halphanumeric := (runsOf_spec hrun).2 '_' ((hmem '_' hunderscore).resolve_left List.not_mem_nil)
  rw [isAlphanumeric_underscore] at halphanumeric
  cases halphanumeric

/-! ### Words in another case -/

theorem underscore_not_mem_lowerWord {word : List Char} (h : '_' ∉ word) : '_' ∉ lowerWord word := by
  fun_induction lowerWord word with
  | case1 => exact h
  | case2 => decide
  | case3 c hsigma => exact CaseMap.underscore_not_mem_lower (by simpa [eq_comm] using h)
  | case4 c rest hrest ih =>
      obtain ⟨hc, hrest⟩ : '_' ≠ c ∧ '_' ∉ rest := by simpa using h
      exact List.not_mem_append (CaseMap.underscore_not_mem_lower (Ne.symm hc)) (ih hrest)

theorem lowerWord_ne_nil {word : List Char} (h : word ≠ []) : lowerWord word ≠ [] := by
  fun_induction lowerWord word with
  | case1 => exact absurd rfl h
  | case2 => decide
  | case3 c hsigma => exact CaseMap.lower_ne_nil c
  | case4 c rest hrest ih => simp [CaseMap.lower_ne_nil c]

theorem underscore_not_mem_capitalWord {word : List Char} (h : '_' ∉ word) : '_' ∉ capitalWord word := by
  cases word with
  | nil => exact h
  | cons c rest =>
      obtain ⟨hc, hrest⟩ : '_' ≠ c ∧ '_' ∉ rest := by simpa using h
      exact List.not_mem_append (CaseMap.underscore_not_mem_upper (Ne.symm hc)) (underscore_not_mem_lowerWord hrest)

/-! ### Names -/

/-- What is joined by a character ends with it only if the last part is empty or does. -/
theorem getLast?_intercalate_ne {sep : Char} {parts : List (List Char)} (h : ∀ part ∈ parts, part ≠ [] ∧ sep ∉ part) :
    ([sep].intercalate parts).getLast? ≠ some sep := by
  induction parts with
  | nil => simp
  | cons part rest ih =>
      cases rest with
      | nil =>
          intro hlast
          rw [List.intercalate_singleton] at hlast
          exact (h part List.mem_cons_self).2 (List.mem_of_getLast? hlast)
      | cons next rest =>
          have hne : [sep].intercalate (next :: rest) ≠ [] := by
            have := (h next (by simp)).1
            cases rest <;> simp_all [List.intercalate_cons_cons]
          have hsome : ([sep].intercalate (next :: rest)).getLast?.isSome = true := by
            simpa using hne
          rw [List.intercalate_cons_cons, List.getLast?_append, Option.or_of_isSome hsome]
          exact ih fun part hpart => h part (List.mem_cons_of_mem _ hpart)

theorem getLast?_snakeCase (name : String) : (snakeCase name).toList.getLast? ≠ some '_' := by
  rw [snakeCase, String.toList_ofList]
  refine getLast?_intercalate_ne ?_
  intro part hpart
  obtain ⟨word, hword, rfl⟩ := List.mem_map.mp hpart
  obtain ⟨hne, hnone⟩ := nameWords_spec hword
  exact ⟨lowerWord_ne_nil hne, underscore_not_mem_lowerWord hnone⟩

theorem getLast?_pascalCase (name : String) : (pascalCase name).toList.getLast? ≠ some '_' := by
  intro hlast
  have hmem := List.mem_of_getLast? hlast
  rw [pascalCase, String.toList_ofList] at hmem
  obtain ⟨word, hword, hunderscore⟩ := List.mem_flatMap.mp hmem
  exact underscore_not_mem_capitalWord (nameWords_spec hword).2 hunderscore

end Text

end SchemaBinding
