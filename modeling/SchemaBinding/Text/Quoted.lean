import SchemaBinding.Text.CharSet.Unprintable

/-!
# `SchemaBinding.Text.Quoted`: texts between double quotes

Messages quote the names they speak of, and generated code quotes its string literals. Both escape the
quote, the backslash and every character that would not show; they differ in the zero character alone.
-/

set_option autoImplicit false

namespace SchemaBinding.Text

/-- A code point as an escape, such as `\u{200b}` for the zero width space. -/
def codePointEscape (c : Char) : List Char :=
  ['\\', 'u', '\x7b'] ++ Nat.toDigits 16 c.toNat ++ ['\x7d']

/-- One character as it stands between quotes. -/
def escapeChar (c : Char) : List Char :=
  if c = '"' then ['\\', '"']
  else if c = '\\' then ['\\', '\\']
  else if c = '\t' then ['\\', 't']
  else if c = '\n' then ['\\', 'n']
  else if c = '\r' then ['\\', 'r']
  else if c = '\x00' then ['\\', '0']
  else if CharSet.unprintable.contains c then codePointEscape c
  else [c]

/-- The characters of a text as they stand between quotes. -/
def escapeChars (cs : List Char) : List Char :=
  cs.flatMap escapeChar

/-- A text in double quotes. -/
def quoted (s : String) : String :=
  String.ofList ('"' :: escapeChars s.toList ++ ['"'])

/-- As `escapeChars`, but a zero character before an octal digit is written in hexadecimal, so that no
reader takes the two for an octal escape. -/
def escapeLiteralChars : List Char → List Char
  | [] => []
  | c :: rest =>
    let octalFollows := rest.head?.any fun d => '0' ≤ d && d ≤ '7'
    (if c = '\x00' && octalFollows then ['\\', 'x', '0', '0'] else escapeChar c)
      ++ escapeLiteralChars rest

/-- A text as a string literal of generated code. -/
def stringLiteral (s : String) : String :=
  String.ofList ('"' :: escapeLiteralChars s.toList ++ ['"'])

end SchemaBinding.Text
