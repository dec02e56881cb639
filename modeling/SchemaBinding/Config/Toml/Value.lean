import SchemaBinding.Schema.Table

/-!
# `SchemaBinding.Config.Toml.Value`: values of a TOML document

A document is a table. Its parts are added one by one: a header opens a table, another kind of header opens a
further element of an array of tables, and a key with dots goes down into tables on its way. What has been
written in one way cannot be written again in another, so that every table remembers how it came about.
-/

set_option autoImplicit false

namespace SchemaBinding.Toml

/-- How a table came about. -/
inductive Origin where
  /-- It is the document, or has a header of its own. -/
  | header
  /-- It is written in braces, and complete. -/
  | inline
  /-- It lies on the way to a table with a header. -/
  | onTheWay
  /-- It lies on the way of a key with dots. -/
  | dotted
  deriving Repr, DecidableEq, Inhabited

/-- A value. -/
inductive Value where
  | text (s : String)
  /-- A number, a truth value, a date or a time. -/
  | scalar
  | array (items : List Value)
  | table (origin : Origin) (entries : Table Value)
  /-- An array of tables, each of which has a header. -/
  | tables (items : List Value)
  deriving Inhabited

/-- Changes the last item of a list. -/
def modifyLast? (f : Value → Option Value) : List Value → Option (List Value)
  | [] => none
  | [item] => (f item).map ([·])
  | item :: rest => (modifyLast? f rest).map (item :: ·)

/-- Changes the table that a path of keys leads to. Tables on the way are made where there are none. Of an
array of tables the path takes the last. The keys of a path `isDotted` when they stand in front of the value
of a key, and not in a header; such a path does not lead into tables with headers. -/
def modifyAt? (isDotted : Bool) (f : Origin → Table Value → Option (Table Value)) :
    (path : List String) → Value → Option Value
  | [], .table origin entries => (f origin entries).map (Value.table origin)
  | key :: path, .table origin entries =>
    let replaced (child : Option Value) : Option Value :=
      child.map fun child => .table origin (entries.insert key child)
    match entries.get? key with
    | none =>
      replaced (modifyAt? isDotted f path (.table (if isDotted then .dotted else .onTheWay) ∅))
    | some (.table .inline _) => none
    | some (.table childOrigin children) =>
      if isDotted && childOrigin = .header then none
      else replaced (modifyAt? isDotted f path (.table childOrigin children))
    | some (.tables items) =>
      replaced ((modifyLast? (modifyAt? isDotted f path) items).map Value.tables)
    | some _ => none
  | _, _ => none

/-- The keys before the last one, and the last. -/
def splitLast? : List String → Option (List String × String)
  | [] => none
  | [key] => some ([], key)
  | key :: rest => (splitLast? rest).map fun (front, last) => (key :: front, last)

/-- Gives a key of a table its value. The path leads to the table with the header above, and the other keys
of a key with dots lead on from there. Such a path ends in a table that only keys with dots have made. -/
def assign? (headerPath : List String) (keys : List String) (value : Value) (document : Value) :
    Option Value := do
  let (path, key) ← splitLast? keys
  let add (origin : Origin) (entries : Table Value) : Option (Table Value) :=
    -- A key without dots goes into the table of the header, one with dots into a table that dots made.
    if (origin == .dotted) == path.isEmpty || entries.contains key then none
    else some (entries.insert key value)
  let within (origin : Origin) (entries : Table Value) : Option (Table Value) :=
    match modifyAt? true add path (.table origin entries) with
    | some (.table _ changed) => some changed
    | _ => none
  modifyAt? false within headerPath document

/-- Opens the table of a header. It may have been on the way to another one before. -/
def openTable? (keys : List String) (document : Value) : Option Value := do
  let (path, key) ← splitLast? keys
  let add (_ : Origin) (entries : Table Value) : Option (Table Value) :=
    match entries.get? key with
    | none => some (entries.insert key (.table .header ∅))
    | some (.table .onTheWay children) => some (entries.insert key (.table .header children))
    | some _ => none
  modifyAt? false add path document

/-- Opens a further element of an array of tables. -/
def openElement? (keys : List String) (document : Value) : Option Value := do
  let (path, key) ← splitLast? keys
  let add (_ : Origin) (entries : Table Value) : Option (Table Value) :=
    match entries.get? key with
    | none => some (entries.insert key (.tables [.table .header ∅]))
    | some (.tables items) => some (entries.insert key (.tables (items ++ [.table .header ∅])))
    | some _ => none
  modifyAt? false add path document

/-- A table in braces with the given keys and values. -/
def inlineTable? (pairs : List (List String × Value)) : Option Value :=
  pairs.foldlM (fun table (keys, value) => assign? [] keys value table) (.table .inline ∅)

end SchemaBinding.Toml
