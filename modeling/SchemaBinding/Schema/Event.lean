/-!
# `SchemaBinding.Schema.Event`: the parts of a document that matter

A schema document reaches the builder as start tags, texts and end tags. Comments, instructions and the
declarations of the document itself do not.
-/

set_option autoImplicit false

namespace SchemaBinding

/-- The attributes of a start tag in document order, with names as written. -/
structure Attributes where
  pairs : List (String × String)
  deriving Repr, DecidableEq, Inhabited

/-- The value of the first attribute with a name. -/
def Attributes.get? (a : Attributes) (name : String) : Option String :=
  (a.pairs.find? (·.1 == name)).map (·.2)

def Attributes.isEmpty (a : Attributes) : Bool := a.pairs.isEmpty

/-- One part of a schema document. -/
inductive Event where
  | startTag (name : String) (attributes : Attributes)
  | text (content : String)
  | endTag (name : String)
  deriving Repr, DecidableEq, Inhabited

end SchemaBinding
