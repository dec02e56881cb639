import Mathlib.Data.Finset.Dedup
import SchemaBinding.Proofs.Diagnostics
import SchemaBinding.Proofs.Groups.Note

/-!
# `SchemaBinding.Proofs.Groups.Report`: which notes are told

Of all notes with one key only the first is told, and a note without a key is always told (`Told`). The key of a
circular reference stands for the groups on its cycle (`loopOf`), in whatever order they are met
(`cycleKey_eq_of_perm`). As long as names are words, the groups can be read back from the key (`perm_of_cycleKey_eq`),
and it is not the key of an unknown group (`cycleKey_ne_of_not_mem`).
-/

set_option autoImplicit false

namespace SchemaBinding

/-! ### Keys -/

/-- The groups on the path from `name` on, which a reference to `name` closes to a cycle. -/
def loopOf (path : List String) (name : String) : List String := path.dropWhile (· ≠ name)

theorem loopOf_suffix (path : List String) (name : String) : loopOf path name <:+ path := List.dropWhile_suffix _

theorem exists_loopOf_eq_cons {path : List String} {name : String} (h : name ∈ path) :
    ∃ rest, loopOf path name = name :: rest := by
  induction path with
  | nil => cases h
  | cons first rest ih =>
      unfold loopOf
      by_cases hfirst : first = name
      · exact ⟨rest, by rw [List.dropWhile_cons_of_neg (by simpa using hfirst), hfirst]⟩
      · rw [List.dropWhile_cons_of_pos (by simpa using hfirst)]
        exact ih ((List.mem_cons.mp h).resolve_left (Ne.symm hfirst))

theorem sortedNames_perm (names : List String) : (sortedNames names).Perm names := List.mergeSort_perm names _

theorem sortedNames_eq_of_perm {names others : List String} (h : names.Perm others) :
    sortedNames names = sortedNames others := by
  have hsorted : ∀ l : List String, (sortedNames l).Pairwise fun a b => (!decide (b < a)) = true := by
    refine List.pairwise_mergeSort (fun a b c hab hbc => ?_) fun a b => ?_
    · simp only [Bool.not_eq_true', decide_eq_false_iff_not, String.not_lt] at *
      exact String.le_trans hab hbc
    · simp only [Bool.or_eq_true, Bool.not_eq_true', decide_eq_false_iff_not, String.not_lt]
      exact String.le_total a b
  refine List.Perm.eq_of_pairwise (fun a b _ _ hab hba => ?_) (hsorted names) (hsorted others)
    ((sortedNames_perm names).trans (h.trans (sortedNames_perm others).symm))
  simp only [Bool.not_eq_true', decide_eq_false_iff_not, String.not_lt] at hab hba
  exact String.le_antisymm hab hba

/-- Cycles of the same groups have the same key. -/
theorem cycleKey_eq_of_perm {path path' : List String} {name name' : String}
    (h : (loopOf path name).Perm (loopOf path' name')) : cycleKey path name = cycleKey path' name' :=
  congrArg " ".intercalate (sortedNames_eq_of_perm h)

/-- The text holds no space. -/
def IsWord (text : String) : Prop := ' ' ∉ text.toList

/-- Words can be told apart in the text that joins them. -/
theorem splitOn_intercalate_words {words : List String} (hwords : ∀ word ∈ words, IsWord word) (hne : words ≠ []) :
    (" ".intercalate words).toList.splitOn ' ' = words.map String.toList := by
  rw [String.toList_intercalate]
  exact List.splitOn_intercalate ' ' (by simpa [IsWord] using hwords) (by simpa using hne)

theorem eq_of_intercalate_eq {words others : List String} (hwords : ∀ word ∈ words, IsWord word) (hne : words ≠ [])
    (hothers : ∀ word ∈ others, IsWord word) (hne' : others ≠ [])
    (h : " ".intercalate words = " ".intercalate others) : words = others := by
  have hsplit : (" ".intercalate words).toList.splitOn ' ' = (" ".intercalate others).toList.splitOn ' ' := by rw [h]
  rw [splitOn_intercalate_words hwords hne, splitOn_intercalate_words hothers hne'] at hsplit
  exact List.map_injective_iff.mpr (fun _ _ => String.toList_inj.mp) hsplit

section
variable {path path' : List String} {name name' : String}

theorem isWord_of_mem_sorted (hwords : ∀ x ∈ path, IsWord x) :
    ∀ x ∈ sortedNames (loopOf path name), IsWord x :=
  fun x hx => hwords x ((loopOf_suffix path name).subset (mem_sortedNames.mp hx))

theorem sortedNames_loopOf_ne_nil (h : name ∈ path) : sortedNames (loopOf path name) ≠ [] := by
  obtain ⟨rest, hrest⟩ := exists_loopOf_eq_cons h
  intro hnil
  have hperm := sortedNames_perm (loopOf path name)
  rw [hnil, hrest] at hperm
  exact absurd hperm.nil_eq (List.cons_ne_nil name rest).symm

/-- The groups of a cycle can be read from its key. -/
theorem perm_of_cycleKey_eq (h : name ∈ path) (hwords : ∀ x ∈ path, IsWord x) (h' : name' ∈ path')
    (hwords' : ∀ x ∈ path', IsWord x) (hkey : cycleKey path name = cycleKey path' name') :
    (loopOf path name).Perm (loopOf path' name') := by
  have hsorted : sortedNames (loopOf path name) = sortedNames (loopOf path' name') :=
    eq_of_intercalate_eq (isWord_of_mem_sorted hwords) (sortedNames_loopOf_ne_nil h) (isWord_of_mem_sorted hwords')
      (sortedNames_loopOf_ne_nil h') hkey
  calc loopOf path name
    _ |>.Perm (sortedNames (loopOf path name)) := (sortedNames_perm _).symm
    _ |>.Perm (sortedNames (loopOf path' name')) := .of_eq hsorted
    _ |>.Perm (loopOf path' name') := sortedNames_perm _

/-- The key of a cycle is not the key of an unknown group off the cycle. -/
theorem cycleKey_ne_of_not_mem (h : name ∈ path) (hwords : ∀ x ∈ path, IsWord x) {unknown : String}
    (hunknown : IsWord unknown) (hnot : unknown ∉ path) : cycleKey path name ≠ "unknown " ++ unknown := by
  intro hkey
  have hjoined : "unknown " ++ unknown = " ".intercalate ["unknown", unknown] := by
    simp [String.intercalate_cons_cons]
  have hsorted : sortedNames (loopOf path name) = ["unknown", unknown] := by
    refine eq_of_intercalate_eq (isWord_of_mem_sorted hwords) (sortedNames_loopOf_ne_nil h) ?_ (by simp)
      (hkey.trans hjoined)
    simp only [List.mem_cons, List.not_mem_nil, or_false, forall_eq_or_imp, forall_eq]
    exact ⟨by unfold IsWord; decide, hunknown⟩
  have hmem : unknown ∈ sortedNames (loopOf path name) := by simp [hsorted]
  exact hnot ((loopOf_suffix path name).subset (mem_sortedNames.mp hmem))

end

/-! ### Told notes -/

/-- From an empty memo some of the notes have been told: the first ones for their keys, and those without a key. -/
structure Told (notes told : List GroupNote) (memo : GroupMemo) : Prop where
  findings : memo.findings = told.map GroupNote.diagnostic
  reported : memo.reported = told.filterMap GroupNote.key?
  nodup : memo.reported.Nodup
  subset : told ⊆ notes
  covered : ∀ note ∈ notes, ∃ other ∈ told, other = note ∨ ∃ key, note.key? = some key ∧ other.key? = some key

/-- One more note is told, or its key has been told before. -/
theorem Told.tell {notes told : List GroupNote} {memo : GroupMemo} (h : Told notes told memo) (note : GroupNote) :
    ∃ told', Told (notes ++ [note]) told' (memo.tell note) := by
  have hcovered : ∀ told' : List GroupNote, told ⊆ told' →
      (∃ other ∈ told', other = note ∨ ∃ key, note.key? = some key ∧ other.key? = some key) →
      ∀ x ∈ notes ++ [note], ∃ other ∈ told', other = x ∨ ∃ key, x.key? = some key ∧ other.key? = some key := by
    intro told' hsubset hnote x hx
    rcases List.mem_append.mp hx with hx | hx
    · obtain ⟨other, hother, heq⟩ := h.covered x hx
      exact ⟨other, hsubset hother, heq⟩
    · rwa [List.mem_singleton.mp hx]
  have hsubset : told ++ [note] ⊆ notes ++ [note] :=
    List.append_subset.mpr ⟨List.subset_append_of_subset_left _ h.subset, List.subset_append_right _ _⟩
  have hlast : ∃ other ∈ told ++ [note], other = note ∨ ∃ key, note.key? = some key ∧ other.key? = some key :=
    ⟨note, List.mem_append_right _ List.mem_cons_self, Or.inl rfl⟩
  unfold GroupMemo.tell
  cases hkey : note.key? with
  | none =>
      refine ⟨told ++ [note], ?_, ?_, h.nodup, hsubset, hcovered _ (List.subset_append_left _ _) hlast⟩
      · simp [GroupMemo.note, h.findings]
      · simp [GroupMemo.note, h.reported, hkey]
  | some key =>
      dsimp only
      unfold GroupMemo.noteOnce
      split
      · rename_i hreported
        have hmem : key ∈ told.filterMap GroupNote.key? := by
          rw [← h.reported]
          simpa using hreported
        obtain ⟨other, hother, hsame⟩ := List.mem_filterMap.mp hmem
        exact ⟨told, h.findings, h.reported, h.nodup, List.subset_append_of_subset_left _ h.subset,
          hcovered told (List.Subset.refl told) ⟨other, hother, Or.inr ⟨key, hkey, hsame⟩⟩⟩
      · rename_i hreported
        refine ⟨told ++ [note], ?_, ?_, ?_, hsubset, hcovered _ (List.subset_append_left _ _) hlast⟩
        · simp [GroupMemo.note, h.findings]
        · simp [h.reported, hkey]
        · have hnew : key ∉ memo.reported := by simpa using hreported
          exact List.nodup_append.mpr ⟨h.nodup, by simp, fun a ha b hb heq => hnew (by simp_all)⟩

theorem exists_told (notes : List GroupNote) : ∃ told, Told notes told (GroupMemo.tellAll {} notes) := by
  induction notes using List.reverseRecOn with
  | nil => exact ⟨[], rfl, rfl, List.nodup_nil, List.Subset.refl [], by simp⟩
  | append_singleton notes note ih =>
      obtain ⟨told, h⟩ := ih
      rw [GroupMemo.tellAll, List.foldl_append]
      exact h.tell note

/-! ### Circular references -/

/-- The path and the name of a circular reference. -/
def GroupNote.cycle? : GroupNote → Option (List String × String)
  | circular path name => some (path, name)
  | deep _ _ => none
  | unknown _ => none

theorem GroupNote.cycle?_eq_some {note : GroupNote} {cycle : List String × String} :
    note.cycle? = some cycle ↔ note = .circular cycle.1 cycle.2 := by
  cases note <;> simp [cycle?, Prod.ext_iff]

theorem GroupNote.matches_iff (note : GroupNote) :
    Diagnostics.Matches "circular group reference" note.diagnostic ↔ note.cycle?.isSome = true := by
  cases note with
  | circular path name =>
      refine iff_of_true (Diagnostics.matches_of_message_eq (" (" ++ (" -> ".intercalate path ++ (" -> " ++ (name ++
        "); reference left unexpanded")))) ?_) rfl
      simp only [diagnostic, circularGroup, Diagnostics.warning, ← String.append_assoc]
      rfl
  | deep path name =>
      -- The message is the same for all groups.
      have hmessage : ¬ Text.occursIn "circular group reference".toList (deepGroup "").message.toList = true := by
        decide +kernel
      exact iff_of_false hmessage (by simp [cycle?])
  | unknown name =>
      have hmessage : ¬ Text.occursIn "circular group reference".toList (unknownGroup "").message.toList = true := by
        decide +kernel
      exact iff_of_false hmessage (by simp [cycle?])

/-- The findings about cycles are those of the circular references. -/
theorem matching_circular (told : List GroupNote) :
    Diagnostics.matching (told.map GroupNote.diagnostic) "circular group reference" =
      (told.filterMap GroupNote.cycle?).map fun cycle => circularGroup cycle.1 cycle.2 := by
  induction told with
  | nil => rfl
  | cons note rest ih =>
      have hmatch := note.matches_iff
      rw [Diagnostics.Matches] at hmatch
      rw [List.map_cons, Diagnostics.matching, List.filter_cons]
      rw [Diagnostics.matching] at ih
      cases note with
      | circular path name => rw [if_pos (hmatch.mpr rfl), ih]; rfl
      | deep path name => rw [if_neg (by rw [hmatch]; simp [GroupNote.cycle?]), ih]; rfl
      | unknown name => rw [if_neg (by rw [hmatch]; simp [GroupNote.cycle?]), ih]; rfl

/-- Told cycles are cycles of different groups. -/
theorem Told.nodup_loops {notes told : List GroupNote} {memo : GroupMemo} (h : Told notes told memo)
    (hvalid : ∀ path name, .circular path name ∈ notes → path.Nodup) :
    ((told.filterMap GroupNote.cycle?).map fun cycle => (loopOf cycle.1 cycle.2).toFinset).Nodup := by
  have hkeys : ((told.filterMap GroupNote.cycle?).map fun cycle => cycleKey cycle.1 cycle.2).Nodup := by
    have hnodup := h.nodup
    rw [h.reported] at hnodup
    refine hnodup.sublist ?_
    clear h hnodup hvalid
    induction told with
    | nil => exact List.Sublist.refl []
    | cons note rest ih =>
        cases note with
        | circular path name => exact ih.cons_cons _
        | deep path name => exact ih
        | unknown name => exact ih.cons _
  rw [List.Nodup, List.pairwise_map] at hkeys ⊢
  -- Two cycles of the same groups would have been told under one key.
  refine hkeys.imp_of_mem fun {cycle cycle'} hcycle hcycle' hne hsame => hne ?_
  have hloop : ∀ cycle ∈ told.filterMap GroupNote.cycle?, (loopOf cycle.1 cycle.2).Nodup := by
    intro cycle hcycle
    obtain ⟨note, hnote, heq⟩ := List.mem_filterMap.mp hcycle
    rw [GroupNote.cycle?_eq_some] at heq
    subst heq
    exact (hvalid _ _ (h.subset hnote)).sublist (loopOf_suffix _ _).sublist
  refine cycleKey_eq_of_perm ((List.perm_ext_iff_of_nodup (hloop cycle hcycle) (hloop cycle' hcycle')).mpr ?_)
  exact List.toFinset.ext_iff.mp hsame

end SchemaBinding
