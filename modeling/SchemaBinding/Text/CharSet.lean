/-!
# `SchemaBinding.Text.CharSet`: sets of characters given by ranges

A property of the Unicode character database is a list of ranges of code points. Membership walks the
list, so a table is data and nothing else. The tables are in the modules below this one.
-/

set_option autoImplicit false

namespace SchemaBinding

/-- A set of characters, as a list of closed ranges of code points. -/
structure CharSet where
  ranges : List (Nat × Nat)
  deriving Repr, DecidableEq, Inhabited

namespace CharSet

/-- Whether `c` lies in one of the ranges. -/
def contains (s : CharSet) (c : Char) : Bool :=
  s.ranges.any fun r => r.1 ≤ c.toNat && c.toNat ≤ r.2

theorem contains_eq_true_iff {s : CharSet} {c : Char} :
    s.contains c = true ↔ ∃ r ∈ s.ranges, r.1 ≤ c.toNat ∧ c.toNat ≤ r.2 := by
  simp [contains, List.any_eq_true]

end CharSet

end SchemaBinding
