import SchemaBinding.Number.Binary64

/-!
# `SchemaBinding.Number.Shortest`: the shortest decimal of a number

A number of double precision is written with the fewest digits that read back to it, and of the decimals
with that many digits with the nearest. The notation is positional: it has no exponent, and a whole
number has no point.
-/

set_option autoImplicit false

namespace SchemaBinding.Binary64

/-- Whether the fraction `r` reads back as the magnitude of `b`. It lies between the points halfway to the
neighbours of `b`, and may be one of them when the mantissa is even. -/
def readsBack (b : Binary64) (r : Ratio) : Bool :=
  -- Below a power of two the neighbour is only half as far away.
  let narrow := b.mantissa = Nat.pow 2 52 && leastExponent < b.exponent
  let low := Ratio.scale ⟨if narrow then 4 * b.mantissa - 1 else 4 * b.mantissa - 2, 4⟩ 2 b.exponent
  let high := Ratio.scale ⟨4 * b.mantissa + 2, 4⟩ 2 b.exponent
  if b.mantissa % 2 = 0 then low.le r && r.le high else low.lt r && r.lt high

/-- The least `k` with `r < 10 ^ k`, for a fraction in the range of the format. -/
def decimalScale (r : Ratio) : Int :=
  if r.den ≤ r.num then Int.ofNat (Nat.toDigits 10 r.floor).length
  else
    match (List.range 400).find? fun k => r.den ≤ r.num * Nat.pow 10 (k + 1) with
    | some k => -(Int.ofNat k)
    | none => 0

/-- The decimal with `count` significant digits that reads back as `b`. Of two the nearer is taken, and the
greater when they are equally near. -/
def decimalOfLength? (b : Binary64) (count : Nat) : Option Decimal :=
  let value := b.magnitude
  let exponent := decimalScale value - Int.ofNat count
  let scaled := value.scale 10 (-exponent)
  let low := scaled.floor
  let reads (n : Nat) : Bool := b.readsBack (Ratio.scale ⟨n, 1⟩ 10 exponent)
  let lowNearer := 2 * scaled.num < (2 * low + 1) * scaled.den
  if reads low && (lowNearer || !reads (low + 1)) then some ⟨b.negative, low, exponent⟩
  else if reads (low + 1) then some ⟨b.negative, low + 1, exponent⟩
  else none

/-- The shortest decimal that reads back as `b`. Seventeen digits always do. -/
def shortest (b : Binary64) : Decimal :=
  if b.mantissa = 0 then ⟨b.negative, 0, 0⟩
  else
    match (List.range 17).findSome? fun n => b.decimalOfLength? (n + 1) with
    | some d => d
    | none => ⟨b.negative, b.mantissa, 0⟩

end SchemaBinding.Binary64

namespace SchemaBinding.Decimal

/-- The decimal in positional notation. -/
def positional (d : Decimal) : String :=
  let digits := Nat.toDigits 10 d.digits
  let sign := if d.negative then ['-'] else []
  if d.digits = 0 then String.ofList (sign ++ ['0'])
  else if 0 ≤ d.exponent then
    String.ofList (sign ++ digits ++ List.replicate d.exponent.toNat '0')
  else
    let places := (-d.exponent).toNat
    let padded := List.replicate (places + 1 - digits.length) '0' ++ digits
    let whole := padded.take (padded.length - places)
    let fraction := ((padded.drop (padded.length - places)).reverse.dropWhile (· = '0')).reverse
    String.ofList (sign ++ whole ++ (if fraction.isEmpty then [] else '.' :: fraction))

end SchemaBinding.Decimal
