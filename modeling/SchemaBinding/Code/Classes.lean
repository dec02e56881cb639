import SchemaBinding.Binding.Call
import SchemaBinding.Code.Title

/-!
# `SchemaBinding.Code.Classes`: code made of classes

The back end for a language with classes. Each type becomes an exported class that extends the class of its
base. The line that opens a class is written at once and its documentation is put above that line;
members and methods are collected and written when the class ends.
-/

set_option autoImplicit false

namespace SchemaBinding

/-- The built-in type of a value. -/
def Primitive.className (p : Primitive) : String :=
  if p.isBoolean then "boolean"
  else if p.isInteger || p.isFloating then "number"
  else "string"

/-- The type of one value of a field. -/
def FieldType.className : FieldType → String
  | .primitive p => p.className
  | .complex name => name
  | .any => "unknown"

namespace Classes

/-- The type of further attributes, by name. -/
def attributeRecord : String := "Record<string, string>"

/-- The type that the accessors of a field speak of. -/
def accessorType (f : Field) : String :=
  match f.kind with
  | .anyAttributes => attributeRecord
  | .extensionType => "string | undefined"
  | _ =>
    if f.repeated then f.type.className ++ "[]"
    else if f.optional && f.default?.isNone then f.type.className ++ " | undefined"
    else f.type.className

/-- A default value as an expression. Those of booleans and numbers stand as they are. -/
def defaultValue (type : FieldType) (text : String) : String :=
  match type with
  | .primitive p =>
    if p.isBoolean || p.isInteger || p.isFloating then Text.trim text else Text.quoted text
  | _ => Text.quoted text

/-- The declaration of a field. -/
def member (f : Field) : String :=
  match f.kind with
  | .anyAttributes => f.name ++ ": " ++ attributeRecord ++ " = \x7b\x7d;"
  | .extensionType => f.name ++ "?: string;"
  | _ =>
    if f.repeated then f.name ++ ": " ++ f.type.className ++ "[] = [];"
    else
      match f.default? with
      | some text => f.name ++ ": " ++ f.type.className ++ " = " ++ defaultValue f.type text ++ ";"
      | none =>
        if f.optional then f.name ++ "?: " ++ f.type.className ++ ";"
        else f.name ++ "!: " ++ f.type.className ++ ";"

/-- The declaration of a field below its documentation, in which line feeds become spaces. -/
def members (f : Field) : List String :=
  let comment (text : String) : String :=
    "/** " ++ text.map (fun c => if c = '\n' then ' ' else c) ++ " */"
  (f.documentation.map comment).toList ++ [member f]

/-- A method with one statement. -/
def method (signature statement : String) : String :=
  signature ++ " \x7b\n    " ++ statement ++ ";\n  \x7d"

/-- The methods that read and write a field, and those for the single values of a collection. -/
def accessors (f : Field) : List String :=
  let field := "this." ++ f.name
  let value := f.type.className
  [method ("get" ++ f.accessor ++ "(): " ++ accessorType f) ("return " ++ field),
    method ("set" ++ f.accessor ++ "(value: " ++ accessorType f ++ "): void") (field ++ " = value")] ++
  if f.isCollection then
    [method ("add" ++ f.accessor ++ "(value: " ++ value ++ "): void") (field ++ ".push(value)"),
      method ("insert" ++ f.accessor ++ "(index: number, value: " ++ value ++ "): void")
        (field ++ ".splice(index, 0, value)"),
      method ("remove" ++ f.accessor ++ "(index: number): " ++ value)
        ("return " ++ field ++ ".splice(index, 1)[0]")]
  else []

/-- The conditions that the facets of a simple type put on a value. -/
def checks (facets : Facets) : List String :=
  (if facets.enumeration.isEmpty then []
    else ["[" ++ ", ".intercalate (facets.enumeration.map Text.quoted) ++ "].includes(value)"]) ++
  (facets.minimum.map fun bound => "Number(value) >= " ++ Text.trim bound).toList ++
  (facets.maximum.map fun bound => "Number(value) <= " ++ Text.trim bound).toList

/-- The method that checks a value against a simple type. -/
def validator (d : SimpleTypeDef) : String :=
  let conditions := checks d.facets
  method ("static validate" ++ d.name ++ "(value: string): boolean")
    ("return " ++ if conditions.isEmpty then "true" else " && ".intercalate conditions)

/-- The method that compares two objects of a class. -/
def comparator (className : String) : String :=
  method ("equals(other: " ++ className ++ "): boolean")
    "return JSON.stringify(this) === JSON.stringify(other)"

/-- The method that turns an object into plain data. -/
def serializer : String :=
  method "toJSON(): Record<string, unknown>" "return \x7b ...this \x7d"

/-- The method that makes an object of a class from plain data. -/
def deserializer (className : String) : String :=
  method ("static fromJSON(data: Record<string, unknown>): " ++ className)
    ("return Object.assign(new " ++ className ++ "(), data)")

/-- The words that open a class. -/
def classMark : String := "export class "

/-- The line that opens a class. -/
def classLine (parent : Option String) (name : String) : String :=
  classMark ++ name ++ ((parent.map (" extends " ++ ·)).getD "") ++ " \x7b\n"

/-- Documentation as a comment of its own lines. -/
def comment (text : String) : String :=
  "/**\n" ++ String.join ((Text.trimmedLines text).map fun line => " * " ++ line ++ "\n") ++ " */\n"

/-- The members and methods of a class, and its end. -/
def classBody (members methods : List String) : String :=
  String.join (members.map fun m => "  " ++ m ++ "\n") ++
    String.join (methods.map fun m => "\n  " ++ m ++ "\n") ++ "\x7d\n\n"

end Classes

/-- Code with classes while it is written: what is written already, and the class that is open. -/
structure ClassWriter where
  output : List Char := []
  className : String := ""
  members : List String := []
  methods : List String := []
  deriving Repr, DecidableEq, Inhabited

namespace ClassWriter

/-- Adds a text to the output. -/
def append (w : ClassWriter) (text : String) : ClassWriter :=
  { w with output := w.output ++ text.toList }

/-- Adds a method to the open class. -/
def addMethod (w : ClassWriter) (method : String) : ClassWriter :=
  { w with methods := w.methods ++ [method] }

/-- Puts documentation above the class that was opened last, if there is one. -/
def document (w : ClassWriter) (text : String) : ClassWriter :=
  let comment := (Classes.comment text).toList
  { w with
    output := (Text.insertBeforeLast? Classes.classMark.toList comment w.output).getD w.output }

/-- Follows one call. -/
def step (w : ClassWriter) : Call → ClassWriter
  | .beginType parent name =>
    { w with className := name, members := [], methods := [] }.append (Classes.classLine parent name)
  | .documentation text => w.document text
  | .field f =>
    { w with
      members := w.members ++ Classes.members f
      methods := w.methods ++ Classes.accessors f }
  | .validator d => w.addMethod (Classes.validator d)
  | .comparators => w.addMethod (Classes.comparator w.className)
  | .serializeHooks => w.addMethod Classes.serializer
  | .deserializeHooks => w.addMethod (Classes.deserializer w.className)
  | .userMethods source => w.addMethod (Text.trim source)
  | .endType =>
    { w with members := [], methods := [] }.append (Classes.classBody w.members w.methods)

/-- Follows several calls. -/
def steps (w : ClassWriter) (calls : List Call) : ClassWriter := calls.foldl step w

/-- The finished code. -/
def code (w : ClassWriter) : String :=
  "// " ++ generatedBy ++ "\n\n" ++ Text.trimEnd (String.ofList w.output) ++ "\n"

/-- The writer once its code has been taken: the output is empty, and an open class stays open. -/
def taken (w : ClassWriter) : ClassWriter := { w with output := [] }

end ClassWriter

/-- The code with classes for a list of calls. -/
def classCode (calls : List Call) : String := (ClassWriter.steps {} calls).code

end SchemaBinding
