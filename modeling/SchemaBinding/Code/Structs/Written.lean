import SchemaBinding.Code.Structs.Declaration
import SchemaBinding.Text.Blank

/-!
# `SchemaBinding.Code.Structs.Written`: methods that the user wrote

The source text of a method is read so that it can be laid out like the methods around it. Methods with an
empty body and methods whose body is one name or one literal are read; other texts are no method.

Each reader skips the white space before what it reads and gives what follows.
-/

set_option autoImplicit false

namespace SchemaBinding.Written

/-- Source text that is still to be read. -/
abbrev Source : Type := List Char

def skipBlank (cs : Source) : Source := cs.dropWhile Text.isBlank

/-- A mark that must come next. -/
def mark? (m : String) (cs : Source) : Option Source :=
  let cs := skipBlank cs
  if m.toList.isPrefixOf cs then some (cs.drop m.toList.length) else none

/-- A word: a run of characters that identifiers are made of. -/
def word? (cs : Source) : Option (String × Source) :=
  let cs := skipBlank cs
  let word := cs.takeWhile Identifier.isContinue
  if Identifier.isValid word then some (String.ofList word, cs.drop word.length) else none

/-- A word that must come next. -/
def keyword? (k : String) (cs : Source) : Option Source :=
  match word? cs with
  | some (word, rest) => if word = k then some rest else none
  | none => none

/-- A name: a word that is not reserved. -/
def name? (cs : Source) : Option (String × Source) :=
  (word? cs).filter fun (word, _) =>
    !Identifier.plainReserved.contains word && !Identifier.rawReserved.contains word && word ≠ "_"

/-- A path of words with double colons between them. `room` bounds how many there are. -/
def path? : (room : Nat) → Source → Option (String × Source)
  | 0, _ => none
  | room + 1, cs => do
    let (first, rest) ← word? cs
    match mark? "::" rest with
    | none => some (first, rest)
    | some rest =>
      let (others, rest) ← path? room rest
      some (first ++ "::" ++ others, rest)

/-- The words between the sign of a reference and its target. -/
def qualifiers (cs : Source) : String × Source :=
  let (lifetime, rest) :=
    match (mark? "'" cs).bind word? with
    | some (word, rest) => ("'" ++ word ++ " ", rest)
    | none => ("", cs)
  match keyword? "mut" rest with
  | some rest => (lifetime ++ "mut ", rest)
  | none => (lifetime, rest)

mutual

/-- A type. `room` bounds how deep it is and how many arguments it has. -/
def type? : (room : Nat) → Source → Option (TypeText × Source)
  | 0, _ => none
  | room + 1, cs =>
    match mark? "&" cs with
    | some rest => do
      let (words, rest) := qualifiers rest
      let (target, rest) ← type? room rest
      some (.reference words target, rest)
    | none => do
      let (head, rest) ← path? (room + 1) cs
      match mark? "<" rest with
      | none => some (.name head, rest)
      | some rest =>
        let (args, rest) ← typeArguments? room rest
        some (.apply head args, rest)

/-- Types up to the bracket that closes them. -/
def typeArguments? : (room : Nat) → Source → Option (List TypeText × Source)
  | 0, _ => none
  | room + 1, cs => do
    let (first, rest) ← type? room cs
    match mark? ">" rest with
    | some rest => some ([first], rest)
    | none =>
      let rest ← mark? "," rest
      match mark? ">" rest with
      | some rest => some ([first], rest)
      | none =>
        let (others, rest) ← typeArguments? room rest
        some (first :: others, rest)

end

/-- The object as a parameter. -/
def receiver? (cs : Source) : Option (String × Source) :=
  match mark? "&" cs with
  | some rest =>
    let (words, rest) := qualifiers rest
    (keyword? "self" rest).map ("&" ++ words ++ "self", ·)
  | none => (keyword? "self" cs).map ("self", ·)

/-- A parameter. -/
def parameter? (room : Nat) (cs : Source) : Option ((String × Option TypeText) × Source) :=
  match receiver? cs with
  | some (written, rest) => some ((written, none), rest)
  | none => do
    let (name, rest) ← name? cs
    let rest ← mark? ":" rest
    let (type, rest) ← type? room rest
    some ((name, some type), rest)

/-- Parameters up to the parenthesis that closes them. -/
def parameters? : (room : Nat) → Source → Option (List (String × Option TypeText) × Source)
  | 0, _ => none
  | room + 1, cs =>
    match mark? ")" cs with
    | some rest => some ([], rest)
    | none => do
      let (first, rest) ← parameter? room cs
      match mark? ")" rest with
      | some rest => some ([first], rest)
      | none =>
        let rest ← mark? "," rest
        let (others, rest) ← parameters? room rest
        some (first :: others, rest)

def isHexDigit (c : Char) : Bool := isAsciiDigit c || ('a' ≤ c && c ≤ 'f') || ('A' ≤ c && c ≤ 'F')

/-- An escape in a string literal, after its backslash. -/
def escape? : Source → Option (Source × Source)
  | 'x' :: high :: low :: rest =>
    if '0' ≤ high && high ≤ '7' && isHexDigit low then some (['x', high, low], rest) else none
  | 'u' :: '\x7b' :: rest =>
    let digits := rest.takeWhile isHexDigit
    match rest.drop digits.length with
    | '\x7d' :: after =>
      if 1 ≤ digits.length && digits.length ≤ 6 then
        some (['u', '\x7b'] ++ digits ++ ['\x7d'], after)
      else none
    | _ => none
  | c :: rest => if ['n', 'r', 't', '\\', '0', '\'', '"', '\n'].contains c then some ([c], rest) else none
  | [] => none

/-- The rest of a string literal, with the quote that closes it. `room` bounds how long it is. -/
def literalRest? : (room : Nat) → Source → Option (Source × Source)
  | 0, _ => none
  | room + 1, cs =>
    match cs with
    | [] => none
    | '"' :: rest => some (['"'], rest)
    | '\\' :: rest => do
      let (escaped, rest) ← escape? rest
      let (others, rest) ← literalRest? room rest
      some ('\\' :: escaped ++ others, rest)
    | c :: rest => do
      if c = '\r' && rest.head? != some '\n' then none
      let (others, rest) ← literalRest? room rest
      some (c :: others, rest)

/-- A string literal. -/
def literal? (cs : Source) : Option (String × Source) := do
  let rest ← mark? "\"" cs
  let (text, rest) ← literalRest? (rest.length + 1) rest
  some (String.ofList ('"' :: text), rest)

/-- A whole number, with the type at its end if it is given. -/
def number? (cs : Source) : Option (String × Source) :=
  let cs := skipBlank cs
  let digits := cs.takeWhile Identifier.isContinue
  if digits.head?.any isAsciiDigit then some (String.ofList digits, cs.drop digits.length) else none

/-- An expression: a literal, a number or a name. -/
def expression? (cs : Source) : Option (String × Source) :=
  (literal? cs).or ((number? cs).or
    ((word? cs).filter fun (word, _) =>
      ["self", "true", "false"].contains word || !Identifier.rawReserved.contains word))

/-- The method that a source text consists of. -/
def method? (source : String) : Option UserMethod := do
  let cs := source.toList
  let room := cs.length + 1
  let isPublic := (keyword? "pub" cs).isSome
  let rest ← keyword? "fn" ((keyword? "pub" cs).getD cs)
  let (name, rest) ← name? rest
  let rest ← mark? "(" rest
  let (parameters, rest) ← parameters? room rest
  let (result, rest) ←
    match mark? "->" rest with
    | some rest => (type? room rest).map fun (type, rest) => (some type, rest)
    | none => some (none, rest)
  let rest ← mark? "\x7b" rest
  let (body, rest) :=
    match expression? rest with
    | some (written, rest) => (some written, rest)
    | none => (none, rest)
  let rest ← mark? "\x7d" rest
  if (skipBlank rest).isEmpty then some ⟨isPublic, name, parameters, result, body⟩ else none

end SchemaBinding.Written
