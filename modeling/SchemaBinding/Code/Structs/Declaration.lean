import SchemaBinding.Code.Structs.Identifier
import SchemaBinding.Number.Shortest

/-!
# `SchemaBinding.Code.Structs.Declaration`: structs and what goes with them

The declarations of a file of generated code: structs with their fields and methods, and a module of
aliases for those built-in types that the language lacks.
-/

set_option autoImplicit false

namespace SchemaBinding

/-- The type of a field. -/
inductive StructType where
  /-- A type of the language. -/
  | builtin (name : String)
  /-- An alias of the module of built-in types. -/
  | aliased (name : String)
  | struct (name : Identifier)
  /-- A struct behind a pointer, which lets a struct hold itself. -/
  | boxed (name : Identifier)
  | optional (value : StructType)
  | sequence (value : StructType)
  /-- Texts by name. -/
  | textTable
  deriving Repr, DecidableEq, Inhabited

/-- How a field is read from a document and written to one. -/
inductive FieldMark where
  /-- The name in the document. -/
  | rename (name : String)
  /-- The fields of the value count as fields of the struct. -/
  | flatten
  | skip
  /-- The field may be missing. -/
  | default
  deriving Repr, DecidableEq, Inhabited

/-- A field of a struct. -/
structure StructField where
  documentation : Option String := none
  marks : List FieldMark
  name : Identifier
  type : StructType
  deriving Repr, DecidableEq, Inhabited

/-- A condition on a value, which is a text. -/
inductive ValueCheck where
  | oneOf (values : List String)
  | atLeast (bound : Decimal)
  | atMost (bound : Decimal)
  deriving Repr, DecidableEq, Inhabited

/-- A written type. -/
inductive TypeText where
  | name (text : String)
  | apply (head : String) (arguments : List TypeText)
  /-- A reference, with what stands between its sign and its target. -/
  | reference (qualifiers : String) (target : TypeText)
  deriving Repr, Inhabited

/-- A method that the user wrote. -/
structure UserMethod where
  isPublic : Bool
  name : String
  /-- The parameters in front of the first type, and their types: `&self` has none. -/
  parameters : List (String × Option TypeText)
  result : Option TypeText
  /-- The expression that the body consists of. -/
  body : Option String
  deriving Repr, Inhabited

/-- A method of a struct. -/
inductive StructMethod where
  | getter (name field : Identifier) (type : StructType)
  | setter (name field : Identifier) (type : StructType)
  | adder (name field : Identifier) (value : StructType)
  | inserter (name field : Identifier) (value : StructType)
  | remover (name field : Identifier) (value : StructType)
  | validator (name : Identifier) (checks : List ValueCheck)
  | written (method : UserMethod)
  deriving Repr, Inhabited

/-- A struct. -/
structure Struct where
  name : Identifier
  /-- The lines of its documentation. -/
  documentation : List String := []
  /-- The abilities that the compiler is to add. -/
  derives : List String := ["Debug", "Clone", "Default"]
  /-- Whether the fields show how they are read and written. -/
  isMarked : Bool := false
  fields : List StructField := []
  methods : List StructMethod := []
  deriving Repr, Inhabited

/-- A file of structs. -/
structure StructFile where
  /-- Whether structs are read from documents or written to them. -/
  usesMarks : Bool
  /-- The aliases for built-in types. -/
  aliases : List String
  structs : List Struct
  deriving Repr, Inhabited

end SchemaBinding
