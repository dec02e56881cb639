import SchemaBinding.Number.Reading

/-!
# `SchemaBinding.Number.Binary64`: decimals rounded to double precision

A finite number of double precision is `mantissa * 2 ^ exponent` with a mantissa below `2 ^ 53`. A decimal
is rounded to the nearest one, a tie to the even mantissa, all in exact arithmetic on naturals.
-/

set_option autoImplicit false

namespace SchemaBinding

/-- A finite number of double precision. The mantissa is at least `2 ^ 52` unless the exponent is least. -/
structure Binary64 where
  negative : Bool
  mantissa : Nat
  exponent : Int
  deriving Repr, DecidableEq, Inhabited

/-- A non-negative fraction. -/
structure Ratio where
  num : Nat
  den : Nat
  deriving Repr, DecidableEq, Inhabited

namespace Ratio

/-- `r * base ^ e`, for a base above zero. -/
def scale (r : Ratio) (base : Nat) (e : Int) : Ratio :=
  if 0 ≤ e then ⟨r.num * Nat.pow base e.toNat, r.den⟩ else ⟨r.num, r.den * Nat.pow base (-e).toNat⟩

/-- The greatest natural that is not above the fraction. -/
def floor (r : Ratio) : Nat := r.num / r.den

/-- The nearest natural, a tie to the even one. -/
def round (r : Ratio) : Nat :=
  let low := r.num / r.den
  let twice := 2 * (r.num % r.den)
  if twice < r.den then low
  else if r.den < twice then low + 1
  else if low % 2 = 0 then low else low + 1

def lt (a b : Ratio) : Bool := a.num * b.den < b.num * a.den

def le (a b : Ratio) : Bool := a.num * b.den ≤ b.num * a.den

end Ratio

namespace Binary64

/-- The least exponent, that of the subnormal numbers. -/
def leastExponent : Int := -1074

/-- The greatest exponent. -/
def greatestExponent : Int := 971

/-- The magnitude of the number as a fraction. -/
def magnitude (b : Binary64) : Ratio :=
  Ratio.scale ⟨b.mantissa, 1⟩ 2 b.exponent

/-- Rounds a fraction above zero. There is no result when it is too large. -/
def ofRatio? (negative : Bool) (r : Ratio) : Option Binary64 :=
  let near := Int.ofNat (Nat.log2 r.num) - Int.ofNat (Nat.log2 r.den) - 53
  let fine := if (r.scale 2 (-near)).floor < Nat.pow 2 53 then near else near + 1
  let exponent := max fine leastExponent
  let mantissa := (r.scale 2 (-exponent)).round
  let rounded : Binary64 :=
    if mantissa = Nat.pow 2 53 then ⟨negative, Nat.pow 2 52, exponent + 1⟩ else ⟨negative, mantissa, exponent⟩
  if greatestExponent < rounded.exponent then none else some rounded

/-- Rounds a decimal. There is no result when it is too large. Decimals far outside the range are
recognised by their length, so that no power of ten is ever large. -/
def ofDecimal? (d : Decimal) : Option Binary64 :=
  let zero : Binary64 := ⟨d.negative, 0, leastExponent⟩
  if d.digits = 0 then some zero
  else
    let scale := Int.ofNat (Nat.toDigits 10 d.digits).length + d.exponent
    if 320 < scale then none
    else if scale < -340 then some zero
    else ofRatio? d.negative (Ratio.scale ⟨d.digits, 1⟩ 10 d.exponent)

end Binary64

end SchemaBinding
