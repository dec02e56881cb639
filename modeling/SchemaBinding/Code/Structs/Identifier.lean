import SchemaBinding.Text.Casing
import SchemaBinding.Text.CharSet.Identifiers
import SchemaBinding.Text.Quoted

/-!
# `SchemaBinding.Code.Structs.Identifier`: identifiers of the structs

The names of a schema become identifiers: those of types in Pascal case, those of fields and methods in snake
case. A reserved word is written as a raw identifier, and four of them, which have no raw form, get an
underscore at the end. Some names leave nothing that could be an identifier.
-/

set_option autoImplicit false

namespace SchemaBinding

/-- Why structs cannot be written. -/
inductive CodeError where
  | emptyIdentifier
  | numericIdentifier
  | invalidIdentifier (written : String)
  /-- The bound of a simple type is too large, or not a number. -/
  | boundNotFinite
  deriving Repr, DecidableEq, Inhabited

def CodeError.message : CodeError → String
  | emptyIdentifier => "Ident is not allowed to be empty; use Option<Ident>"
  | numericIdentifier => "Ident cannot be a number; use Literal instead"
  | invalidIdentifier written => Text.quoted written ++ " is not a valid Ident"
  | boundNotFinite => "assertion failed: f.is_finite()"

/-- An identifier, as it is written. -/
structure Identifier where
  text : String
  deriving Repr, DecidableEq, Inhabited

namespace Identifier

/-- The reserved words that have no raw form. -/
def plainReserved : List String := ["crate", "self", "super", "Self"]

/-- The reserved words that have a raw form. -/
def rawReserved : List String :=
  ["as", "break", "const", "continue", "else", "enum", "extern", "false", "fn", "for", "if", "impl", "in",
    "let", "loop", "match", "mod", "move", "mut", "pub", "ref", "return", "static", "struct", "trait",
    "true", "type", "unsafe", "use", "where", "while", "async", "await", "dyn", "abstract", "become",
    "box", "do", "final", "macro", "override", "priv", "typeof", "unsized", "virtual", "yield", "try"]

/-- Whether `c` may begin an identifier. -/
def isStart (c : Char) : Bool := c = '_' || CharSet.identifierStart.contains c

/-- Whether `c` may stand in an identifier after its first character. -/
def isContinue (c : Char) : Bool := CharSet.identifierContinue.contains c

/-- Whether the characters make up an identifier. -/
def isValid : List Char → Bool
  | [] => false
  | c :: rest => isStart c && rest.all isContinue

/-- The identifier of a name that is no reserved word. -/
def ofWord (name : String) : Except CodeError Identifier :=
  if name.isEmpty then .error .emptyIdentifier
  else if name.toList.all fun c => '0' ≤ c && c ≤ '9' then .error .numericIdentifier
  else if isValid name.toList then .ok ⟨name⟩
  else .error (.invalidIdentifier name)

/-- The identifier of a name. -/
def ofName (name : String) : Except CodeError Identifier :=
  if plainReserved.contains name then .ok ⟨name ++ "_"⟩
  else if rawReserved.contains name then .ok ⟨"r#" ++ name⟩
  else ofWord name

/-- The identifier of a type. -/
def ofType (name : String) : Except CodeError Identifier := ofName (Text.pascalCase name)

/-- The identifier of a field. -/
def ofField (name : String) : Except CodeError Identifier := ofName (Text.snakeCase name)

/-- The identifier of a method that does `verb` to a field with the given name of accessors. -/
def ofAccessor (verb accessor : String) : Except CodeError Identifier :=
  ofName (Text.snakeCase (verb ++ accessor))

/-- The identifier of the method that checks values of a simple type. -/
def ofValidator (name : String) : Except CodeError Identifier :=
  ofName ("validate_" ++ Text.snakeCase name)

end Identifier

end SchemaBinding
