import SchemaBinding.Config
import SchemaBinding.Config.Toml

/-!
# `SchemaBinding.Config.Settings`: configurations as documents

A configuration is written as a document with a table of names, a style of accessors and a list of methods.
All three may be missing, and further keys have no meaning.
-/

set_option autoImplicit false

namespace SchemaBinding

open Toml (Value)

/-- A text, or nothing for other values. -/
def Toml.Value.text? : Value → Option String
  | .text s => some s
  | _ => none

/-- The name by which a style of accessors is chosen. -/
def AccessorStyle.label : AccessorStyle → String
  | underscored => "underscored"
  | capitalized => "capitalized"

/-- The style with a name. -/
def AccessorStyle.ofLabel? (s : String) : Option AccessorStyle :=
  [underscored, capitalized].find? fun style => style.label == s

namespace Settings

/-- A table of names: all of its values are texts. -/
def nameTable? : Value → Option NameTable
  | .table _ entries =>
    let text? (entry : String × Value) : Option (String × String) := entry.2.text?.map fun new => (entry.1, new)
    (entries.entries.mapM text?).map Table.ofList
  | _ => none

/-- Whether a value holds nothing. -/
def isVoid : Value → Bool
  | .table _ entries => entries.isEmpty
  | .array items => items.isEmpty
  | _ => false

/-- A style of accessors: its name, or a table with this name as its only key and nothing under it. -/
def accessorStyle? : Value → Option AccessorStyle
  | .text s => AccessorStyle.ofLabel? s
  | .table _ entries =>
    match entries.entries with
    | [(key, value)] => if isVoid value then AccessorStyle.ofLabel? key else none
    | _ => none
  | _ => none

/-- A text that may be missing. -/
def textOrEmpty? : Option Value → Option String
  | none => some ""
  | some value => value.text?

/-- A pattern and its source: under their keys in a table, or in this order in an array. -/
def method? : Value → Option (String × String)
  | .table _ entries => do
    return (← textOrEmpty? (entries.get? "pattern"), ← textOrEmpty? (entries.get? "source"))
  | .array items => do
    return (← textOrEmpty? items[0]?, ← textOrEmpty? items[1]?)
  | _ => none

/-- A list of methods. -/
def methods? : Value → Option (List (String × String))
  | .array items => items.mapM method?
  | .tables items => items.mapM method?
  | _ => none

/-- The value of a key, or a default when the key is missing. -/
def read {α : Type} (default : α) (f : Value → Option α) (entries : Table Value) (key : String) :
    Except ConfigError α :=
  match entries.get? key with
  | none => .ok default
  | some value => (f value).elim (.error .parse) .ok

end Settings

/-- The configuration that a document stands for. -/
def Config.ofString (source : String) : Except ConfigError Config := do
  let entries ← (Toml.document? source).elim (.error .parse) .ok
  let nameTable ← Settings.read ∅ Settings.nameTable? entries "name_table"
  let accessorStyle ← Settings.read .underscored Settings.accessorStyle? entries "accessor_style"
  let written ← Settings.read [] Settings.methods? entries "methods"
  let methods ← MethodSpec.ofList written
  return ⟨nameTable, accessorStyle, methods⟩

end SchemaBinding
