import SchemaBinding.Config
import SchemaBinding.Schema.Model

/-!
# `SchemaBinding.Binding.Field`: the fields of a generated type

A generated type has a field for each child, one for each attribute, and some that stand for content without a
name: wildcards, character content, further attributes, and the name of the actual type.
-/

set_option autoImplicit false

namespace SchemaBinding

/-- Where a field comes from. -/
inductive FieldKind where
  | element
  /-- Content of wildcards. -/
  | wildcard
  | attribute
  /-- Character content. -/
  | value
  /-- Attributes that the schema does not name. -/
  | anyAttributes
  /-- The name of the actual type, for a type that others extend. -/
  | extensionType
  deriving Repr, DecidableEq, Inhabited

/-- The type of one value of a field. -/
inductive FieldType where
  | primitive (p : Primitive)
  /-- A generated type, by its clean name. -/
  | complex (name : String)
  | any
  deriving Repr, DecidableEq, Inhabited

/-- A field of a generated type. -/
structure Field where
  name : String
  /-- The name part of the accessors. -/
  accessor : String
  kind : FieldKind
  type : FieldType
  repeated : Bool := false
  optional : Bool := true
  default? : Option String := none
  documentation : Option String := none
  /-- The simple type that the value is declared with. -/
  simpleType : Option String := none
  facets : Facets := {}
  deriving Repr, DecidableEq, Inhabited

/-- Whether values can be added to and removed from the field one by one. -/
def Field.isCollection (f : Field) : Bool :=
  f.repeated && (f.kind = .element || f.kind = .wildcard)

/-- A text without the white space around it, if anything is left. -/
def nonBlank? (s : String) : Option String :=
  let text := Text.trim s
  if text.isEmpty then none else some text

variable (m : Model) (style : AccessorStyle)

/-- A field with the defaults of fields that no declaration names. -/
def plainField (name : String) (kind : FieldKind) (type : FieldType) : Field :=
  { name := name, accessor := style.accessor name, kind := kind, type := type }

/-- The type of a field for a resolved type. A named type goes by the clean name of its declaration. -/
def fieldType : Option ResolvedType → FieldType
  | some (.primitive p) => .primitive p
  | some (.named name) =>
    match m.element? name with
    | some id => .complex (m.node id).cleanName
    | none => .complex name
  | some .any => .any
  | none => .primitive .string

/-- The field of a child that is no wildcard. -/
def elementField (child : Node) : Field :=
  { plainField style child.cleanName .element (fieldType m child.resolvedType) with
    repeated := child.isRepeated
    optional := child.isOptional
    default? := child.default?
    documentation := nonBlank? child.documentation
    simpleType := child.simpleTypeName
    facets := child.facets }

/-- The field of the wildcards of a type, which is made for the first of them. -/
def wildcardField (child : Node) : Field :=
  { plainField style "anytypeobjs_" .wildcard .any with
    repeated := child.isRepeated
    optional := child.isOptional }

/-- The fields of the children, in order. Wildcards share one field, at the place of the first. -/
def childFields (wildcardSeen : Bool) : List Node → List Field
  | [] => []
  | child :: rest =>
    if child.isWildcard then
      if wildcardSeen then childFields true rest else wildcardField style child :: childFields true rest
    else elementField m style child :: childFields wildcardSeen rest

/-- The field of an attribute. -/
def attributeField (d : AttributeDef) : Field :=
  { plainField style d.cleanName .attribute (.primitive (d.resolvedType.getD .string)) with
    optional := d.use ≠ .required
    default? := d.default?
    simpleType := d.simpleTypeName
    facets := d.facets }

/-- The type of character content: that of the first built-in base, but always string in mixed content. -/
def contentType (n : Node) : Primitive :=
  if n.mixed then .string else (n.simpleBases.head?.bind m.builtins.primitive?).getD .string

/-- The fields that stand for content without a name. -/
def contentFields (n : Node) : List Field :=
  let stringField (name : String) (kind : FieldKind) := plainField style name kind (.primitive .string)
  (if n.hasSimpleContent || n.mixed then [plainField style "valueOf_" .value (.primitive (contentType m n))]
    else []) ++
  (if n.anyAttribute then [{ stringField "anyAttributes_" .anyAttributes with repeated := true }] else []) ++
  (if n.isExtended then [stringField "extensiontype_" .extensionType] else [])

/-- The fields of a generated type: children, attributes, and the rest. -/
def fields (n : Node) : List Field :=
  childFields m style false (n.children.map m.node) ++
    n.attributes.values.map (attributeField style) ++ contentFields m style n

/-- The restrictions on the values of a field: those of its simple type, or else its own under the name of
that type or of the field. -/
def restriction? (f : Field) : Option SimpleTypeDef :=
  match (f.simpleType.bind m.simpleType?).filter (·.facets.isRestricted) with
  | some d => some d
  | none =>
    if f.facets.isRestricted then some { name := f.simpleType.getD f.name, facets := f.facets } else none

end SchemaBinding
