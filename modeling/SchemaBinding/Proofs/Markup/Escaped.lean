import SchemaBinding.Markup.Reference

/-!
# `SchemaBinding.Proofs.Markup.Escaped`: texts with their special characters escaped

A writer of markup replaces the five characters that have names by references to them (`escape`). What it writes then has
no bracket and no quote (`isSpecial_of_mem_escape`), and a reader gets the text back (`unescape_escape`).
-/

set_option autoImplicit false

namespace SchemaBinding.Markup

/-- The characters that have names, and their names. -/
def namedCharacters : List (Char × List Char) :=
  [('&', "amp".toList), ('<', "lt".toList), ('>', "gt".toList), ('"', "quot".toList), ('\'', "apos".toList)]

/-- One character as it is written: a reference to it if it has a name. -/
def escapeChar (c : Char) : List Char :=
  match namedCharacters.lookup c with
  | some name => '&' :: (name ++ [';'])
  | none => [c]

/-- A text as it is written. -/
def escape (cs : List Char) : List Char := cs.flatMap escapeChar

theorem escape_append (cs ds : List Char) : escape (cs ++ ds) = escape cs ++ escape ds := List.flatMap_append

/-- Brackets and quotes. -/
def isSpecial (c : Char) : Bool := c = '<' || c = '>' || c = '"' || c = '\''

/-- A name of a character has neither brackets nor quotes, does not end a reference, and stands for its character. -/
theorem of_lookup_namedCharacters {c : Char} {name : List Char} (h : namedCharacters.lookup c = some name) :
    (∀ d ∈ name, isSpecial d = false ∧ endsReference d = false) ∧
      ∀ start, readReference start name = .ok c := by
  have htable : ∀ entry ∈ namedCharacters, entry.2.all (fun d => !isSpecial d && !endsReference d) = true ∧
      entry.2.head? ≠ some '#' ∧ namedCharacter? entry.2 = some entry.1 := by
    decide
  obtain ⟨before, after, hsplit, -⟩ := List.lookup_eq_some_iff.mp h
  obtain ⟨hchars, hhash, hname⟩ := htable (c, name) (by simp [hsplit])
  refine ⟨fun d hd => ?_, fun start => ?_⟩
  · simpa using List.all_eq_true.mp hchars d hd
  · unfold readReference
    split
    · exact absurd rfl hhash
    · rw [hname]

theorem not_isSpecial_of_lookup {c : Char} (h : namedCharacters.lookup c = none) : isSpecial c = false ∧ c ≠ '&' := by
  have hne := List.lookup_eq_none_iff.mp h
  simp [namedCharacters] at hne
  simp [isSpecial, hne]

theorem isSpecial_of_mem_escape {cs : List Char} {d : Char} (h : d ∈ escape cs) : isSpecial d = false := by
  obtain ⟨c, -, hd⟩ := List.mem_flatMap.mp h
  unfold escapeChar at hd
  split at hd
  · rename_i name hname
    simp only [List.mem_cons, List.mem_append, List.not_mem_nil, or_false] at hd
    rcases hd with rfl | hd | rfl
    · decide
    · exact ((of_lookup_namedCharacters hname).1 d hd).1
    · decide
  · rename_i hname
    rw [List.mem_singleton.mp hd]
    exact (not_isSpecial_of_lookup hname).1

/-- A reader takes a character in as it is written. -/
theorem unescapeFrom_escapeChar (total place : Nat) (c : Char) (rest : List Char) :
    ∃ place', unescapeFrom total place (escapeChar c ++ rest) = (unescapeFrom total place' rest).map (c :: ·) := by
  unfold escapeChar
  split
  · rename_i name hname
    obtain ⟨hchars, hread⟩ := of_lookup_namedCharacters hname
    have hname : ∀ d ∈ name, (!endsReference d) = true := fun d hd => by rw [(hchars d hd).2]; rfl
    have htake : (name ++ ';' :: rest).takeWhile (!endsReference ·) = name := by
      rw [List.takeWhile_append_of_pos hname]
      simp [endsReference]
    have hdrop : (name ++ ';' :: rest).dropWhile (!endsReference ·) = ';' :: rest := by
      rw [List.dropWhile_append_of_pos hname]
      simp [endsReference]
    refine ⟨place + width name + 2, ?_⟩
    rw [List.cons_append, List.append_assoc, List.singleton_append, unescapeFrom, if_pos rfl]
    dsimp only
    split
    · rename_i after hafter
      rw [hdrop] at hafter
      cases hafter
      rw [htake, hread]
      rfl
    · rename_i hother
      exact absurd hdrop (hother rest)
  · rename_i hname
    refine ⟨place + c.utf8Size, ?_⟩
    show unescapeFrom total place (c :: rest) = _
    rw [unescapeFrom, if_neg (not_isSpecial_of_lookup hname).2]

theorem unescapeFrom_escape (total place : Nat) (cs : List Char) : unescapeFrom total place (escape cs) = .ok cs := by
  induction cs generalizing place with
  | nil =>
      show unescapeFrom total place [] = .ok []
      rw [unescapeFrom]
  | cons c rest ih =>
      obtain ⟨place', heq⟩ := unescapeFrom_escapeChar total place c (escape rest)
      show unescapeFrom total place (escapeChar c ++ escape rest) = _
      rw [heq, ih]
      rfl

/-- A reader gets an escaped text back. -/
theorem unescape_escape (cs : List Char) : unescape (escape cs) = .ok cs := unescapeFrom_escape _ 0 cs

end SchemaBinding.Markup
