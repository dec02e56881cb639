import SchemaBinding.Markup.Error

/-!
# `SchemaBinding.Markup.Reference`: references to characters

An ampersand starts a reference, which ends at a semicolon and stands for one character, given by its number
or by one of five names. Places in errors are bytes of the text that holds the reference.
-/

set_option autoImplicit false

namespace SchemaBinding.Markup

/-- The number of bytes of a text. -/
def width (cs : List Char) : Nat := cs.foldr (fun c rest => c.utf8Size + rest) 0

/-- The value of a digit in a base up to sixteen. -/
def digitValue? (base : Nat) (c : Char) : Option Nat :=
  let value :=
    if '0' ≤ c && c ≤ '9' then some (c.toNat - '0'.toNat)
    else if 'a' ≤ c && c ≤ 'f' then some (c.toNat - 'a'.toNat + 10)
    else if 'A' ≤ c && c ≤ 'F' then some (c.toNat - 'A'.toNat + 10)
    else none
  value.filter (· < base)

/-- A number of 32 bits, read digit by digit. The first digit that is none, or that makes the number too
large, decides the error. -/
def readNumber (base value : Nat) : List Char → Except BadNumber Nat
  | [] => .ok value
  | c :: rest =>
    match digitValue? base c with
    | none => .error .invalidDigit
    | some d =>
      if base * value + d < Nat.pow 2 32 then readNumber base (base * value + d) rest else .error .tooLarge

/-- The number of a character reference, in a base. -/
def readCode (base : Nat) (digits : List Char) : Except BadCharacter Nat :=
  match digits with
  | [] => .error (.number .empty)
  | c :: _ =>
    if c = '+' || c = '-' then .error .sign
    else (readNumber base 0 digits).mapError .number

/-- The character with a number. -/
def characterOfCode (code : Nat) : Except BadCharacter Char :=
  if code = 0 then .error .zero
  else if code.isValidChar then .ok (Char.ofNat code)
  else .error (.notScalar code)

/-- The character that stands behind `#` in a reference. -/
def readCharacter (digits : List Char) : Except BadCharacter Char :=
  match digits with
  | 'x' :: hex => (readCode 16 hex).bind characterOfCode
  | _ => (readCode 10 digits).bind characterOfCode

/-- The characters that have names. -/
def namedCharacter? (name : List Char) : Option Char :=
  [("amp", '&'), ("lt", '<'), ("gt", '>'), ("quot", '"'), ("apos", '\'')].lookup (String.ofList name)

/-- The character that a reference stands for. `start` is the place after its ampersand. -/
def readReference (start : Nat) (name : List Char) : Except EscapeError Char :=
  match name with
  | '#' :: digits => (readCharacter digits).mapError .character
  | _ =>
    match namedCharacter? name with
    | some c => .ok c
    | none => .error (.unknownEntity start (start + width name) (String.ofList name))

/-- Whether a character ends the name of a reference. -/
def endsReference (c : Char) : Bool := c = '&' || c = ';'

/-- Replaces the references in the rest of a text of `total` bytes, which begins at `place`. -/
def unescapeFrom (total place : Nat) : List Char → Except EscapeError (List Char)
  | [] => .ok []
  | c :: rest =>
    if c = '&' then
      let name := rest.takeWhile (!endsReference ·)
      match h : rest.dropWhile (!endsReference ·) with
      | ';' :: after => do
        have : after.length < rest.length + 1 := by
          have := (List.dropWhile_suffix (l := rest) (!endsReference ·)).length_le
          rw [h] at this
          simp at this
          omega
        let character ← readReference (place + 1) name
        let others ← unescapeFrom total (place + width name + 2) after
        return character :: others
      | _ => .error (.unterminated place total)
    else (unescapeFrom total (place + c.utf8Size) rest).map (c :: ·)
  termination_by cs => cs.length

/-- A text with its references replaced. -/
def unescape (cs : List Char) : Except EscapeError (List Char) :=
  unescapeFrom (width cs) 0 cs

end SchemaBinding.Markup
