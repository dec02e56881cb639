import SchemaBinding.Markup.Document
import SchemaBinding.Schema.Builder.Feed

/-!
# `SchemaBinding.Schema.Source`: models of documents

The text of a document is read as events, which the builder takes in. Where the text has an error, the
builder sees the events in front of it, and its own error comes first if it finds one there.
-/

set_option autoImplicit false

namespace SchemaBinding

/-- A fault of the text as an error of the schema. -/
def SchemaError.ofFault : Markup.Fault → SchemaError
  | .markup cause => .markup cause
  | .attributes cause => .attributes cause

/-- The model of a document. -/
def Model.ofSource (prefixOverride : Option String) (source : String) : Except SchemaError Model :=
  let (events, fault) := Markup.events source
  ((Builder.start prefixOverride).feedAll events).bind fun b =>
    match fault with
    | some f => .error (.ofFault f)
    | none => b.finish

end SchemaBinding
