import SchemaBinding.Number.Reading

/-!
# `SchemaBinding.Config.Toml.Scalar`: numbers, truth values, dates and times

Configurations have no use for these values, but a document that holds a malformed one is no document. The
module says which words are well formed.
-/

set_option autoImplicit false

namespace SchemaBinding.Toml

/-- Whether a run of digits is well formed: single underscores may stand between digits. -/
def isDigits (isDigit : Char → Bool) (cs : List Char) : Bool :=
  (cs.splitOn '_').all fun part => !part.isEmpty && part.all isDigit

/-- The digits of a run, without underscores. -/
def digitsOnly (cs : List Char) : List Char := cs.filter (· ≠ '_')

/-- Whether a run of decimal digits may stand in front of a number: it does not begin with an idle zero. -/
def isWhole (cs : List Char) : Bool :=
  isDigits isAsciiDigit cs && (cs.length = 1 || cs.head? != some '0')

/-- The value of a digit, also of one above nine. -/
def digitValue (c : Char) : Nat :=
  if isAsciiDigit c then c.toNat - '0'.toNat else c.toLower.toNat - 'a'.toNat + 10

/-- Whether a run of digits to a base is a whole number of 64 bits with a sign. -/
def isBasedInteger (base : Nat) (cs : List Char) : Bool :=
  isDigits (fun c => (isAsciiDigit c || c.isAlpha) && digitValue c < base) cs &&
    (digitsOnly cs).foldl (fun n c => base * n + digitValue c) 0 < Nat.pow 2 63

/-- Whether a word is a whole number of 64 bits. -/
def isInteger : List Char → Bool
  | '0' :: 'x' :: cs => isBasedInteger 16 cs
  | '0' :: 'o' :: cs => isBasedInteger 8 cs
  | '0' :: 'b' :: cs => isBasedInteger 2 cs
  | cs =>
    let (negative, magnitude) := readSign cs
    isWhole magnitude &&
      digitsValue (digitsOnly magnitude) < if negative then Nat.pow 2 63 + 1 else Nat.pow 2 63

/-- Whether a word ends a decimal number: nothing, or an exponent. -/
def isExponent : List Char → Bool
  | [] => true
  | c :: rest => (c = 'e' || c = 'E') && isDigits isAsciiDigit (readSign rest).2

/-- Whether a word is a number with a fraction or an exponent, an infinity or not a number. -/
def isFloating (cs : List Char) : Bool :=
  let magnitude := (readSign cs).2
  let isNumberChar (c : Char) : Bool := isAsciiDigit c || c = '_'
  let afterWhole := magnitude.dropWhile isNumberChar
  magnitude = "inf".toList || magnitude = "nan".toList ||
    (isWhole (magnitude.takeWhile isNumberChar) &&
      match afterWhole with
      | [] => false
      | '.' :: rest =>
        isDigits isAsciiDigit (rest.takeWhile isNumberChar) && isExponent (rest.dropWhile isNumberChar)
      | _ => isExponent afterWhole)

/-- A number of exactly `count` digits between two limits. -/
def isField (count least greatest : Nat) (cs : List Char) : Bool :=
  cs.length = count && cs.all isAsciiDigit && least ≤ digitsValue cs && digitsValue cs ≤ greatest

/-- How many days a month has. -/
def daysInMonth (year month : Nat) : Nat :=
  let isLeap := year % 4 = 0 && (year % 100 ≠ 0 || year % 400 = 0)
  if month = 2 then if isLeap then 29 else 28
  else if [4, 6, 9, 11].contains month then 30 else 31

/-- Whether a word is a day such as `1979-05-27`. -/
def isDate (cs : List Char) : Bool :=
  match cs.splitOn '-' with
  | [year, month, day] =>
    isField 4 0 9999 year && isField 2 1 12 month &&
      isField 2 1 (daysInMonth (digitsValue year) (digitsValue month)) day
  | _ => false

/-- Whether a word is a time of day such as `07:32:00.5`. -/
def isTime (cs : List Char) : Bool :=
  match cs.splitOn ':' with
  | [hour, minute, second] =>
    isField 2 0 23 hour && isField 2 0 59 minute &&
      match second.splitOn '.' with
      | [whole] => isField 2 0 60 whole
      | [whole, fraction] => isField 2 0 60 whole && !fraction.isEmpty && fraction.all isAsciiDigit
      | _ => false
  | _ => false

/-- Whether a word is the distance from universal time, without its sign. -/
def isOffset (cs : List Char) : Bool :=
  match cs.splitOn ':' with
  | [hour, minute] => isField 2 0 23 hour && isField 2 0 59 minute
  | _ => false

/-- Whether a word is a time of day, perhaps with its distance from universal time. -/
def isZonedTime (cs : List Char) : Bool :=
  let time := cs.takeWhile fun c => c ≠ 'Z' && c ≠ 'z' && c ≠ '+' && c ≠ '-'
  isTime time &&
    match cs.drop time.length with
    | [] => true
    | sign :: rest => if sign = '+' || sign = '-' then isOffset rest else rest.isEmpty

/-- Whether a word is a date, a time or both. -/
def isMoment (cs : List Char) : Bool :=
  let date := cs.take 10
  isTime cs || isDate cs ||
    (isDate date &&
      match cs.drop 10 with
      | separator :: time => [' ', 'T', 't'].contains separator && isZonedTime time
      | [] => false)

/-- Whether a word is a number, a truth value, a date or a time. -/
def isScalar (cs : List Char) : Bool :=
  cs = "true".toList || cs = "false".toList || isInteger cs || isFloating cs || isMoment cs

/-- Whether a character may stand in such a word. -/
def isScalarChar (c : Char) : Bool :=
  c.isAlpha || isAsciiDigit c || ['+', '-', '_', '.', ':'].contains c

/-- The word that a text begins with, and what follows. A space belongs to the word when it stands between a
date and a time. -/
def scalarWord (cs : List Char) : List Char × List Char :=
  let word := cs.takeWhile isScalarChar
  match cs.drop word.length with
  | ' ' :: rest =>
    let time := rest.takeWhile isScalarChar
    if isDate word && isZonedTime time then (word ++ ' ' :: time, rest.drop time.length)
    else (word, ' ' :: rest)
  | rest => (word, rest)

end SchemaBinding.Toml
