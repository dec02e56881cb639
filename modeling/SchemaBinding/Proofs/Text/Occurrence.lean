import Mathlib.Data.List.Infix
import SchemaBinding.Text.Blank

/-!
# `SchemaBinding.Proofs.Text.Occurrence`: where a text occurs in another

A text that occurs in a longer one begins there with its own first character, ends with its own last one, and does not go
across a character that it does not have. So parts of the longer text can be left aside when one looks for it.

The last place where it occurs is found from the end, and does not depend on what stands before
(`insertBeforeLast?_append`).
-/

set_option autoImplicit false

namespace SchemaBinding.Text

variable {part new cs : List Char}

/-! ### Parts in which a text does not begin or end -/

theorem infix_append_of_head?_ne {front : List Char} (h : ∀ d ∈ front, part.head? ≠ some d) :
    part <:+: front ++ cs ↔ part <:+: cs := by
  cases part with
  | nil => simp
  | cons c part =>
      induction front with
      | nil => rfl
      | cons d front ih =>
          have hhead : ¬ c :: part <+: d :: (front ++ cs) := fun hprefix =>
            h d List.mem_cons_self (congrArg some (List.cons_prefix_cons.mp hprefix).1)
          rw [List.cons_append, List.infix_cons_iff, or_iff_right hhead]
          exact ih fun x hx => h x (List.mem_cons_of_mem _ hx)

theorem infix_append_of_getLast?_ne {back : List Char} (h : ∀ d ∈ back, part.getLast? ≠ some d) :
    part <:+: cs ++ back ↔ part <:+: cs := by
  rw [← List.reverse_infix, List.reverse_append, infix_append_of_head?_ne, List.reverse_infix]
  intro d hd
  rw [List.head?_reverse]
  exact h d (List.mem_reverse.mp hd)

/-- A text does not go across a character that it does not have. -/
theorem infix_append_cons_iff {c : Char} {front back : List Char} (h : c ∉ part) (hpart : part ≠ []) :
    part <:+: front ++ c :: back ↔ part <:+: front ∨ part <:+: back := by
  induction front with
  | nil =>
      have hhead : ¬ part <+: c :: back := by
        intro hprefix
        obtain ⟨d, rest, rfl⟩ := List.exists_cons_of_ne_nil hpart
        exact h ((List.cons_prefix_cons.mp hprefix).1 ▸ List.mem_cons_self)
      rw [List.nil_append, List.infix_cons_iff, List.infix_nil, or_iff_right hhead, or_iff_right hpart]
  | cons d front ih =>
      have hprefix : part <+: d :: front ++ c :: back ↔ part <+: d :: front := by
        refine ⟨fun hp => ?_, fun hp => hp.trans (List.prefix_append _ _)⟩
        rcases List.prefix_or_prefix_of_prefix hp (List.prefix_append (d :: front) _) with hshort | hlong
        · exact hshort
        · -- The rest of the text would begin with that character.
          obtain ⟨rest, rfl⟩ := hlong
          cases rest with
          | nil => exact List.append_nil _ ▸ List.prefix_rfl
          | cons x rest =>
              have hx := (List.cons_prefix_cons.mp ((List.prefix_append_right_inj _).mp hp)).1
              exact absurd (by simp [hx]) h
      rw [List.cons_append, List.infix_cons_iff, ih, List.infix_cons_iff, ← List.cons_append, hprefix, or_assoc]

/-! ### The last place -/

theorem insertBeforeLast?_eq_none_iff (new : List Char) : insertBeforeLast? part new cs = none ↔ ¬ part <:+: cs := by
  induction cs with
  | nil => simp [insertBeforeLast?]
  | cons c rest ih =>
      rw [List.infix_cons_iff, not_or, ← ih, insertBeforeLast?]
      cases insertBeforeLast? part new rest <;> simp

/-- What stands before a text that has the part does not matter. -/
theorem insertBeforeLast?_append (front : List Char) (h : part <:+: cs) :
    insertBeforeLast? part new (front ++ cs) = (insertBeforeLast? part new cs).map (front ++ ·) := by
  induction front with
  | nil => simp
  | cons c front ih =>
      obtain ⟨found, hfound⟩ : ∃ found, insertBeforeLast? part new cs = some found :=
        Option.ne_none_iff_exists'.mp fun hnone => (insertBeforeLast?_eq_none_iff new).mp hnone h
      simp [insertBeforeLast?, ih, hfound]

/-- The new text comes between two parts of the other. -/
theorem exists_of_insertBeforeLast?_eq_some {found : List Char} (h : insertBeforeLast? part new cs = some found) :
    ∃ before after, cs = before ++ after ∧ found = before ++ new ++ after := by
  induction cs generalizing found with
  | nil =>
      rw [insertBeforeLast?] at h
      split at h
      · cases h
        exact ⟨[], [], rfl, (List.append_nil _).symm⟩
      · cases h
  | cons c rest ih =>
      rw [insertBeforeLast?] at h
      split at h
      · rename_i found hfound
        cases h
        obtain ⟨before, after, rfl, rfl⟩ := ih hfound
        exact ⟨c :: before, after, rfl, rfl⟩
      · split at h
        · cases h
          exact ⟨[], c :: rest, rfl, rfl⟩
        · cases h

/-- The new text comes first if and only if the part, with which the text begins, does not come again. -/
theorem insertBeforeLast?_eq_append_iff {c d : Char} (h : part <+: c :: cs) (hne : d ≠ c) :
    insertBeforeLast? part (d :: new) (c :: cs) = some (d :: new ++ c :: cs) ↔ ¬ part <:+: cs := by
  rw [← insertBeforeLast?_eq_none_iff (d :: new), insertBeforeLast?]
  cases insertBeforeLast? part (d :: new) cs with
  | none => simp [h]
  | some found => simp [hne.symm]

end SchemaBinding.Text
