import SchemaBinding.Binding.Call
import SchemaBinding.Code.Structs.Layout
import SchemaBinding.Code.Structs.Written
import SchemaBinding.Number.Reading

/-!
# `SchemaBinding.Code.Structs`: code made of structs

The back end for a language with structs. Each type becomes a struct with methods that read and write its
fields. The base of a type is a field, whose own fields count as fields of the struct when it is read or
written. Built-in types that the language lacks become aliases in a module of their own.
-/

set_option autoImplicit false

namespace SchemaBinding

/-- The type of the language that holds the values of a built-in type, if there is one. -/
def Primitive.structName? : Primitive → Option String
  | .boolean => some "bool"
  | .double => some "f64"
  | .float => some "f32"
  | .long => some "i64"
  | .int => some "i32"
  | .short => some "i16"
  | .byte => some "i8"
  | .unsignedLong => some "u64"
  | .unsignedInt => some "u32"
  | .unsignedShort => some "u16"
  | .unsignedByte => some "u8"
  | .string => some "String"
  | _ => none

/-- The name that a built-in type has as an alias. -/
def Primitive.aliasName (p : Primitive) : String :=
  match p with
  | .anyUri => "AnyUri"
  | .notationName => "Notation"
  | .nmToken => "NmToken"
  | .nmTokens => "NmTokens"
  | .ncName => "NcName"
  | .id => "Id"
  | .idRef => "IdRef"
  | .idRefs => "IdRefs"
  | .entity => "Entity"
  | .entities => "Entities"
  | _ =>
    match p.localName.toList with
    | [] => ""
    | c :: rest => String.ofList (c.toUpper :: rest)

/-- The alias for values of any type. -/
def anyAlias : String := "AnyType"

namespace Structs

/-- The type of one value of a field of the struct `owner`. A struct that holds one of itself holds it behind
a pointer. -/
def valueType (owner : Identifier) (f : Field) : Except CodeError StructType :=
  match f.type with
  | .primitive p =>
    .ok (match p.structName? with
      | some name => .builtin name
      | none => .aliased p.aliasName)
  | .any => .ok (.aliased anyAlias)
  | .complex name => do
    let name ← Identifier.ofType name
    return if name = owner && !f.repeated then .boxed name else .struct name

/-- The type of a field, given that of one value. -/
def fieldType (f : Field) (value : StructType) : StructType :=
  match f.kind with
  | .anyAttributes => .textTable
  | .extensionType => .optional (.builtin "String")
  | _ => if f.repeated then .sequence value else if f.optional then .optional value else value

/-- How a field is read and written. An attribute has a sign in front of its name. -/
def fieldMarks (f : Field) : List FieldMark :=
  (match f.kind with
    | .element => .rename f.name
    | .attribute => .rename ("@" ++ f.name)
    | .value => .rename "$text"
    | .anyAttributes => .flatten
    | .wildcard | .extensionType => .skip) ::
  if f.optional || f.repeated then [.default] else []

/-- The methods that read and write a field, and those for the single values of a collection. -/
def accessors (f : Field) (field : Identifier) (type value : StructType) :
    Except CodeError (List StructMethod) := do
  let getter ← Identifier.ofAccessor "get" f.accessor
  let setter ← Identifier.ofAccessor "set" f.accessor
  let whole : List StructMethod := [.getter getter field type, .setter setter field type]
  if f.isCollection then
    let adder ← Identifier.ofAccessor "add" f.accessor
    let inserter ← Identifier.ofAccessor "insert" f.accessor
    let remover ← Identifier.ofAccessor "remove" f.accessor
    return whole ++
      [.adder adder field value, .inserter inserter field value, .remover remover field value]
  else return whole

/-- A bound of a simple type as a number. Text that is no number bounds nothing. -/
def bound? (text : Option String) : Except CodeError (Option Decimal) :=
  match text.bind fun t => NumberText.read? (Text.trimmed t.toList) with
  | none => .ok none
  | some (.decimal d) =>
    match Binary64.ofDecimal? d with
    | some b => .ok (some b.shortest)
    | none => .error .boundNotFinite
  | some _ => .error .boundNotFinite

/-- The conditions that facets put on a value. -/
def checks (facets : Facets) : Except CodeError (List ValueCheck) := do
  let least ← bound? facets.minimum
  let greatest ← bound? facets.maximum
  return (if facets.enumeration.isEmpty then [] else [.oneOf facets.enumeration]) ++
    (least.map ValueCheck.atLeast).toList ++ (greatest.map ValueCheck.atMost).toList

/-- The field that holds the base of a type. -/
def baseField (parent : Identifier) : StructField where
  marks := [.flatten]
  name := ⟨"base"⟩
  type := .struct parent

/-- The struct of a type before it has fields of its own. -/
def opened (parent : Option String) (name : String) : Except CodeError Struct := do
  let base ← parent.mapM Identifier.ofType
  let name ← Identifier.ofType name
  return { name := name, fields := (base.map baseField).toList }

/-- The struct with a field and its methods added. -/
def withField (s : Struct) (f : Field) : Except CodeError Struct := do
  let name ← Identifier.ofField f.name
  let value ← valueType s.name f
  let type := fieldType f value
  let methods ← accessors f name type value
  return { s with
    fields := s.fields ++ [⟨f.documentation.map (" " ++ ·), fieldMarks f, name, type⟩]
    methods := s.methods ++ methods }

/-- The struct with a method that checks values of a simple type. -/
def withValidator (s : Struct) (d : SimpleTypeDef) : Except CodeError Struct := do
  let name ← Identifier.ofValidator d.name
  let checks ← checks d.facets
  return { s with methods := s.methods ++ [.validator name checks] }

/-- The alias that one value of a field needs. -/
def neededAlias? (f : Field) : Option String :=
  match f.type with
  | .primitive p => if p.structName?.isNone then some p.aliasName else none
  | .any => some anyAlias
  | .complex _ => none

/-- Puts a name into a sorted list, unless it is there. -/
def insertSorted (name : String) : List String → List String
  | [] => [name]
  | first :: rest =>
    if name = first then first :: rest
    else if name < first then name :: first :: rest
    else first :: insertSorted name rest

end Structs

/-- Code with structs while it is written: the structs so far, the aliases that they need, whether any is read
or written, and the struct that is open. -/
structure StructWriter where
  structs : List Struct := []
  aliases : List String := []
  usesMarks : Bool := false
  current : Option Struct := none
  deriving Repr, Inhabited

namespace StructWriter

/-- Changes the open struct, if one is open. -/
def modify (w : StructWriter) (f : Struct → Struct) : StructWriter :=
  { w with current := w.current.map f }

/-- Adds an ability to the open struct that shows how the fields are read or written. -/
def derive (w : StructWriter) (ability : String) : StructWriter :=
  { w.modify fun s => { s with derives := s.derives ++ [ability], isMarked := true } with
    usesMarks := w.usesMarks || w.current.isSome }

/-- Follows one call. While no struct is open only the start of a type has an effect. -/
def step (w : StructWriter) : Call → Except CodeError StructWriter
  | .beginType parent name => do return { w with current := some (← Structs.opened parent name) }
  | .documentation text =>
    .ok (w.modify fun s =>
      { s with documentation := s.documentation ++ (Text.trimmedLines text).map (" " ++ ·) })
  | .field f =>
    match w.current with
    | none => .ok w
    | some s => do
      let s ← Structs.withField s f
      return { w with
        aliases := (Structs.neededAlias? f).elim w.aliases (Structs.insertSorted · w.aliases)
        current := some s }
  | .validator d =>
    match w.current with
    | none => .ok w
    | some s => do return { w with current := some (← Structs.withValidator s d) }
  | .comparators => .ok (w.modify fun s => { s with derives := s.derives ++ ["PartialEq"] })
  | .serializeHooks => .ok (w.derive "Serialize")
  | .deserializeHooks => .ok (w.derive "Deserialize")
  | .userMethods source =>
    .ok (w.modify fun s =>
      { s with methods := s.methods ++ ((Written.method? source).map StructMethod.written).toList })
  | .endType => .ok { w with structs := w.structs ++ w.current.toList, current := none }

/-- Follows several calls. -/
def steps (w : StructWriter) (calls : List Call) : Except CodeError StructWriter := calls.foldlM step w

/-- The finished file. -/
def file (w : StructWriter) : StructFile := ⟨w.usesMarks, w.aliases, w.structs⟩

/-- The writer once its file has been taken. An open struct stays open. -/
def taken (w : StructWriter) : StructWriter := { current := w.current }

end StructWriter

/-- The file of structs for a list of calls. -/
def structFile (calls : List Call) : Except CodeError StructFile :=
  (StructWriter.steps {} calls).map (·.file)

end SchemaBinding
