import SchemaBinding.Config.Toml.Scalar
import SchemaBinding.Config.Toml.Text
import SchemaBinding.Config.Toml.Value

/-!
# `SchemaBinding.Config.Toml`: TOML documents

A document is read line by line: a line holds a header, a key with its value, or nothing, and may end in a
comment. A text that is no document gives no result at all.
-/

set_option autoImplicit false

namespace SchemaBinding.Toml

/-- What follows a comment, which ends before the end of its line. -/
def comment? : List Char → Option (List Char)
  | '#' :: rest => some (rest.dropWhile isPrintable)
  | _ => none

/-- What follows white space, comments and line ends. -/
def skipLines : (room : Nat) → List Char → List Char
  | 0, cs => cs
  | room + 1, cs =>
    let cs := skipBlank cs
    let rest := (comment? cs).getD cs
    match newline? rest with
    | some rest => skipLines room rest
    | none => rest

mutual

/-- A value. -/
def value? : (room : Nat) → List Char → Option (Value × List Char)
  | 0, _ => none
  | room + 1, cs =>
    match cs with
    | [] => none
    | '[' :: rest => do
      let (items, rest) ← items? room (skipLines rest.length rest)
      return (.array items, rest)
    | '\x7b' :: rest =>
      match skipBlank rest with
      | '\x7d' :: rest => some (.table .inline ∅, rest)
      | rest => do
        let (pairs, rest) ← pairs? room rest
        return (← inlineTable? pairs, rest)
    | c :: _ =>
      if c = '"' || c = '\'' then (text? cs).map fun (text, rest) => (.text text, rest)
      else
        -- No setting is a number, a truth value or a moment, so one value stands for all of them.
        let (word, rest) := scalarWord cs
        if isScalar word then some (.scalar, rest) else none

/-- The items of an array, up to the bracket that closes it. -/
def items? : (room : Nat) → List Char → Option (List Value × List Char)
  | 0, _ => none
  -- This is also where an array ends after a comma.
  | _ + 1, ']' :: rest => some ([], rest)
  | room + 1, cs => do
    let (item, rest) ← value? room cs
    match skipLines rest.length rest with
    | ']' :: rest => return ([item], rest)
    | ',' :: rest =>
      let (others, rest) ← items? room (skipLines rest.length rest)
      return (item :: others, rest)
    | _ => none

/-- The keys and values of a table in braces, up to the brace that closes it. -/
def pairs? : (room : Nat) → List Char → Option (List (List String × Value) × List Char)
  | 0, _ => none
  | room + 1, cs => do
    let (pair, rest) ← pair? room cs
    match skipBlank rest with
    | '\x7d' :: rest => return ([pair], rest)
    | ',' :: rest =>
      let (others, rest) ← pairs? room rest
      return (pair :: others, rest)
    | _ => none

/-- A key with its value. -/
def pair? : (room : Nat) → List Char → Option ((List String × Value) × List Char)
  | 0, _ => none
  | room + 1, cs => do
    let (keys, rest) ← key? (room + 1) cs
    match rest with
    | '=' :: rest =>
      let (value, rest) ← value? room (skipBlank rest)
      return ((keys, value), rest)
    | _ => none

end

/-- What a line holds. -/
inductive Line where
  /-- The header of a table, or of an element of an array of tables. -/
  | table (keys : List String)
  | element (keys : List String)
  | pair (keys : List String) (value : Value)
  deriving Inhabited

/-- The contents of a line that is not empty. -/
def line? (cs : List Char) : Option (Line × List Char) := do
  let room := cs.length + 1
  match cs with
  | '[' :: '[' :: rest =>
    match ← key? room rest with
    | (keys, ']' :: ']' :: rest) => return (.element keys, rest)
    | _ => none
  | '[' :: rest =>
    match ← key? room rest with
    | (keys, ']' :: rest) => return (.table keys, rest)
    | _ => none
  | _ =>
    let ((keys, value), rest) ← pair? room cs
    return (.pair keys value, rest)

/-- What follows the end of a line that may have a comment. -/
def lineEnd? (cs : List Char) : Option (List Char) :=
  let cs := skipBlank cs
  let rest := (comment? cs).getD cs
  if rest.isEmpty then some [] else newline? rest

/-- The lines of a document that are not empty. -/
def lines? : (room : Nat) → List Char → Option (List Line)
  | 0, _ => none
  | room + 1, cs =>
    match skipLines (cs.length + 1) cs with
    | [] => some []
    | cs => do
      let (line, rest) ← line? cs
      return line :: (← lines? room (← lineEnd? rest))

/-- Adds a line to a document, whose last header is given. -/
def addLine? (state : List String × Value) : Line → Option (List String × Value)
  | .table keys => (openTable? keys state.2).map (keys, ·)
  | .element keys => (openElement? keys state.2).map (keys, ·)
  | .pair keys value => (assign? state.1 keys value state.2).map (state.1, ·)

/-- The table that a text stands for. A byte order mark in front is not part of the text. -/
def document? (source : String) : Option (Table Value) := do
  let cs := match source.toList with
    | '\ufeff' :: rest => rest
    | cs => cs
  let lines ← lines? (cs.length + 1) cs
  match ← lines.foldlM addLine? ([], .table .header ∅) with
  | (_, .table _ entries) => some entries
  | _ => none

end SchemaBinding.Toml
