import SchemaBinding.Number.Reading

/-!
# `SchemaBinding.Config.Toml.Text`: texts of a TOML document

A text stands between quotes of two kinds, single or tripled. Between double quotes a backslash begins an
escape; between apostrophes every character stands for itself. Only texts between tripled quotes hold line
ends.

A reader gives what it has read and what follows. Its argument `room` bounds how much it may read.
-/

set_option autoImplicit false

namespace SchemaBinding.Toml

/-- Spaces and tabs, which are the white space within a line. -/
def isBlank (c : Char) : Bool := c = ' ' || c = '\t'

/-- Whether a character may stand in a comment or a text. Control characters may not, except for the tab. -/
def isPrintable (c : Char) : Bool := c = '\t' || (' ' ≤ c && c ≠ '\x7f')

def skipBlank (cs : List Char) : List Char := cs.dropWhile isBlank

/-- What follows a line end. -/
def newline? : List Char → Option (List Char)
  | '\n' :: rest => some rest
  | '\r' :: '\n' :: rest => some rest
  | _ => none

/-- What follows a line end, or the text itself when it begins with none. -/
def skipNewline (cs : List Char) : List Char := (newline? cs).getD cs

/-- The value of a hexadecimal digit. -/
def hexDigit? (c : Char) : Option Nat :=
  if isAsciiDigit c then some (c.toNat - '0'.toNat)
  else if 'a' ≤ c && c ≤ 'f' then some (c.toNat - 'a'.toNat + 10)
  else if 'A' ≤ c && c ≤ 'F' then some (c.toNat - 'A'.toNat + 10)
  else none

/-- The character with a code point of `count` hexadecimal digits. -/
def codePoint? (count : Nat) (cs : List Char) : Option (Char × List Char) := do
  let digits := cs.take count
  let values ← digits.mapM hexDigit?
  let n := values.foldl (fun n d => 16 * n + d) 0
  if digits.length = count && n.isValidChar then some (Char.ofNat n, cs.drop count) else none

/-- The character of an escape, after its backslash. -/
def escape? : List Char → Option (Char × List Char)
  | 'b' :: rest => some ('\x08', rest)
  | 't' :: rest => some ('\t', rest)
  | 'n' :: rest => some ('\n', rest)
  | 'f' :: rest => some ('\x0c', rest)
  | 'r' :: rest => some ('\r', rest)
  | '"' :: rest => some ('"', rest)
  | '\\' :: rest => some ('\\', rest)
  | 'u' :: rest => codePoint? 4 rest
  | 'U' :: rest => codePoint? 8 rest
  | _ => none

/-- A character in front of what a reader has read. -/
def prepend (c : Char) (read : List Char × List Char) : List Char × List Char := (c :: read.1, read.2)

/-- The rest of a text on one line, up to the quote that closes it. -/
def lineText? (quote : Char) : (room : Nat) → List Char → Option (List Char × List Char)
  | 0, _ => none
  | _ + 1, [] => none
  | room + 1, c :: rest =>
    if c = quote then some ([], rest)
    else if c = '\\' && quote = '"' then do
      let (escaped, rest) ← escape? rest
      return prepend escaped (← lineText? quote room rest)
    else if isPrintable c then (lineText? quote room rest).map (prepend c)
    else none

/-- White space with at least one line end in it, which a backslash at the end of a line takes away. -/
def lineContinuation? (cs : List Char) : Option (List Char) :=
  (newline? (skipBlank cs)).map fun rest => rest.dropWhile fun c => isBlank c || c = '\n' || c = '\r'

/-- The rest of a text over several lines, up to the three quotes that close it. Up to two more quotes in
front of those belong to the text. Line ends count as line feeds. -/
def linesText? (quote : Char) : (room : Nat) → List Char → Option (List Char × List Char)
  | 0, _ => none
  | _ + 1, [] => none
  | room + 1, c :: rest =>
    if c = quote then
      let count := 1 + (rest.takeWhile (· = quote)).length
      if count < 3 then (linesText? quote room rest).map (prepend c)
      else some (List.replicate (min count 5 - 3) quote, (c :: rest).drop (min count 5))
    else if c = '\\' && quote = '"' then
      match lineContinuation? rest with
      | some rest => linesText? quote room rest
      | none => do
        let (escaped, rest) ← escape? rest
        return prepend escaped (← linesText? quote room rest)
    else if isPrintable c then (linesText? quote room rest).map (prepend c)
    else do
      let rest ← newline? (c :: rest)
      return prepend '\n' (← linesText? quote room rest)

/-- A text. -/
def text? (cs : List Char) : Option (String × List Char) :=
  let room := cs.length + 1
  let read : Option (List Char × List Char) :=
    match cs with
    | '"' :: '"' :: '"' :: rest => linesText? '"' room (skipNewline rest)
    | '"' :: rest => lineText? '"' room rest
    | '\'' :: '\'' :: '\'' :: rest => linesText? '\'' room (skipNewline rest)
    | '\'' :: rest => lineText? '\'' room rest
    | _ => none
  read.map fun (text, rest) => (String.ofList text, rest)

/-- Whether a character may stand in a key without quotes. -/
def isKeyChar (c : Char) : Bool := isAsciiDigit c || c.isAlpha || c = '_' || c = '-'

/-- A part of a key: a bare word, or a text on one line. -/
def keyPart? (cs : List Char) : Option (String × List Char) :=
  let room := cs.length + 1
  match cs with
  | '"' :: rest => (lineText? '"' room rest).map fun (text, rest) => (String.ofList text, rest)
  | '\'' :: rest => (lineText? '\'' room rest).map fun (text, rest) => (String.ofList text, rest)
  | _ =>
    let word := cs.takeWhile isKeyChar
    if word.isEmpty then none else some (String.ofList word, cs.drop word.length)

/-- A key: parts with dots between them and white space around them. -/
def key? : (room : Nat) → List Char → Option (List String × List Char)
  | 0, _ => none
  | room + 1, cs => do
    let (part, rest) ← keyPart? (skipBlank cs)
    match skipBlank rest with
    | '.' :: rest =>
      let (parts, rest) ← key? room rest
      return (part :: parts, rest)
    | rest => return ([part], rest)

end SchemaBinding.Toml
