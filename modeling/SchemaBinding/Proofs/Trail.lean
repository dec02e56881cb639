/-!
# `SchemaBinding.Proofs.Trail`: what is come to step by step

A chain of declarations is followed by a step that may have no result: a simple type leads to the one that its base names,
an element to the one that its type names. `Trail.at?` says what is come to after a number of steps, and `Trail.upTo` lists
what is come to until then.

* `Trail.at?_eq_none_of_le`: after the end there is nothing.
* `Trail.exists_end_or_isSome`: until a number of steps there is an end, or something is come to.
* `Trail.isSome_of_return`: a trail that comes to the same thing twice has no end.
* `Trail.upTo_succ`: a trail is its start with the trail of the next thing behind it.
-/

set_option autoImplicit false

namespace SchemaBinding.Trail

variable {α : Type} (next : α → Option α)

/-- What is come to from a start after so many steps. -/
def at? (start : Option α) : Nat → Option α
  | 0 => start
  | k + 1 => (at? start k).bind next

/-- What is come to from a start in at most so many steps, in order. -/
def upTo (start : Option α) (steps : Nat) : List α :=
  (List.range (steps + 1)).filterMap (at? next start)

variable {next} {start : Option α}

theorem at?_zero : at? next start 0 = start := rfl

/-- The first step may be made first. -/
theorem at?_succ (start : Option α) (k : Nat) : at? next start (k + 1) = at? next (start.bind next) k := by
  induction k with
  | zero => rfl
  | succ k ih =>
      show (at? next start (k + 1)).bind next = (at? next (start.bind next) k).bind next
      rw [ih]

theorem at?_none (k : Nat) : at? next none k = none := by
  induction k with
  | zero => rfl
  | succ k ih => rw [at?_succ, Option.bind_none, ih]

/-- After the end there is nothing. -/
theorem at?_eq_none_of_le {i j : Nat} (hle : i ≤ j) (hnone : at? next start i = none) : at? next start j = none := by
  obtain ⟨n, rfl⟩ := Nat.exists_eq_add_of_le hle
  clear hle
  induction n with
  | zero => exact hnone
  | succ n ih =>
      show (at? next start (i + n)).bind next = none
      rw [ih, Option.bind_none]

/-- A trail that comes to the same thing twice has no end. -/
theorem isSome_of_return {i j : Nat} (hlt : i < j) (hsome : (at? next start i).isSome = true)
    (hagain : at? next start j = at? next start i) (k : Nat) : (at? next start k).isSome = true := by
  -- What comes after the second visit is what came after the first.
  have hshift : ∀ n, at? next start (j + n) = at? next start (i + n) := by
    intro n
    induction n with
    | zero => exact hagain
    | succ n ih =>
        show (at? next start (j + n)).bind next = (at? next start (i + n)).bind next
        rw [ih]
  -- So an end could be moved to the front, until it lies before the second visit and thus before the first.
  rw [Option.isSome_iff_ne_none] at hsome ⊢
  induction k using Nat.strongRecOn with
  | ind k ih =>
      by_cases hk : k < j
      · intro hnone
        exact hsome (hagain ▸ at?_eq_none_of_le (Nat.le_of_lt hk) hnone)
      · obtain ⟨n, rfl⟩ := Nat.exists_eq_add_of_le (Nat.le_of_not_lt hk)
        rw [hshift n]
        exact ih (i + n) (by omega)

/-- A trail ends after fewer than so many steps, or it goes on until then. -/
theorem exists_end_or_isSome (next : α → Option α) (a : α) (n : Nat) :
    (∃ k < n, ∃ last, at? next (some a) k = some last ∧ at? next (some a) (k + 1) = none) ∨
      (at? next (some a) n).isSome = true := by
  induction n with
  | zero => exact .inr rfl
  | succ n ih =>
      rcases ih with ⟨k, hk, hend⟩ | hsome
      · exact .inl ⟨k, Nat.lt_succ_of_lt hk, hend⟩
      · obtain ⟨last, hlast⟩ := Option.isSome_iff_exists.mp hsome
        cases hnext : at? next (some a) (n + 1) with
        | none => exact .inl ⟨n, Nat.lt_succ_self n, last, hlast, hnext⟩
        | some b => exact .inr rfl

/-! ### The list -/

theorem upTo_none (steps : Nat) : upTo next none steps = [] :=
  List.filterMap_eq_nil_iff.mpr fun k _ => at?_none k

theorem upTo_zero (a : α) : upTo next (some a) 0 = [a] := rfl

/-- A trail is its start with the trail of the next thing behind it. -/
theorem upTo_succ (a : α) (steps : Nat) : upTo next (some a) (steps + 1) = a :: upTo next (next a) steps := by
  have hrest : at? next (some a) ∘ Nat.succ = at? next (next a) := funext (at?_succ (some a))
  unfold upTo
  rw [List.range_succ_eq_map, List.filterMap_cons_some at?_zero, List.filterMap_map, hrest]

theorem upTo_of_end {a : α} (hend : next a = none) (steps : Nat) : upTo next (some a) steps = [a] := by
  cases steps with
  | zero => exact upTo_zero a
  | succ steps => rw [upTo_succ, hend, upTo_none]

end SchemaBinding.Trail
