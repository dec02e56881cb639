/-!
# `SchemaBinding.Number.Reading`: numbers as they are written

A bound of a schema type is text. Read as a number it is a decimal, an infinity or not a number; other
texts are no number at all. A whole number is a run of decimal digits with a limit.
-/

set_option autoImplicit false

namespace SchemaBinding

/-- The decimal `digits * 10 ^ exponent`, with a sign. -/
structure Decimal where
  negative : Bool
  digits : Nat
  exponent : Int
  deriving Repr, DecidableEq, Inhabited

/-- What a number text denotes. -/
inductive NumberText where
  | decimal (value : Decimal)
  | infinite
  | notANumber
  deriving Repr, DecidableEq, Inhabited

/-- Whether `c` is one of the digits `0` to `9`. -/
def isAsciiDigit (c : Char) : Bool := '0' ≤ c && c ≤ '9'

/-- The value of a run of digits. -/
def digitsValue (cs : List Char) : Nat :=
  cs.foldl (fun n c => 10 * n + (c.toNat - '0'.toNat)) 0

/-- A run of at least one digit, as a number. -/
def readDigits? (cs : List Char) : Option Nat :=
  if cs.isEmpty || !cs.all isAsciiDigit then none else some (digitsValue cs)

/-- The sign in front of a number, and what follows it. -/
def readSign : List Char → Bool × List Char
  | '-' :: rest => (true, rest)
  | '+' :: rest => (false, rest)
  | cs => (false, cs)

/-- A whole number below `limit`, with an optional plus sign. -/
def readWhole? (limit : Nat) (cs : List Char) : Option Nat :=
  let digits := match cs with
    | '+' :: rest => rest
    | _ => cs
  (readDigits? digits).filter (· < limit)

/-- The exponent part of a decimal: nothing, or `e` and a whole number. -/
def readExponent? : List Char → Option Int
  | [] => some 0
  | c :: rest =>
    if c = 'e' || c = 'E' then
      let (negative, digits) := readSign rest
      (readDigits? digits).map fun n => if negative then -(Int.ofNat n) else Int.ofNat n
    else none

/-- A decimal without its sign: digits with an optional point among them, and an optional exponent. -/
def readMagnitude? (negative : Bool) (cs : List Char) : Option Decimal :=
  let whole := cs.takeWhile isAsciiDigit
  let afterWhole := cs.dropWhile isAsciiDigit
  let (fraction, afterFraction) := match afterWhole with
    | '.' :: rest => (rest.takeWhile isAsciiDigit, rest.dropWhile isAsciiDigit)
    | _ => ([], afterWhole)
  if whole.isEmpty && fraction.isEmpty then none
  else
    (readExponent? afterFraction).map fun exponent =>
      ⟨negative, digitsValue (whole ++ fraction), exponent - Int.ofNat fraction.length⟩

/-- The number that a text denotes, if it denotes one. Letter case does not matter. -/
def NumberText.read? (cs : List Char) : Option NumberText :=
  let (negative, magnitude) := readSign cs
  let word := magnitude.map Char.toLower
  if word = "inf".toList || word = "infinity".toList then some .infinite
  else if word = "nan".toList then some .notANumber
  else (readMagnitude? negative magnitude).map .decimal

end SchemaBinding
