/-!
# `SchemaBinding.Schema.Primitive`: the built-in simple types

The closed set of built-in simple types of XML Schema, each with its local name, and the questions that
code generation asks about them.
-/

set_option autoImplicit false

namespace SchemaBinding

/-- A built-in simple type. -/
inductive Primitive where
  | string
  | normalizedString
  | token
  | language
  | name
  | ncName
  | qName
  | nmToken
  | nmTokens
  | id
  | idRef
  | idRefs
  | entity
  | entities
  | notationName
  | anyUri
  | base64Binary
  | hexBinary
  | boolean
  | float
  | double
  | decimal
  | integer
  | nonPositiveInteger
  | negativeInteger
  | nonNegativeInteger
  | positiveInteger
  | long
  | int
  | short
  | byte
  | unsignedLong
  | unsignedInt
  | unsignedShort
  | unsignedByte
  | date
  | dateTime
  | time
  | duration
  | gDay
  | gMonth
  | gMonthDay
  | gYear
  | gYearMonth
  | anySimpleType
  deriving Repr, DecidableEq, Inhabited

namespace Primitive

/-- The name without a prefix, as a schema spells it. -/
def localName : Primitive → String
  | string => "string"
  | normalizedString => "normalizedString"
  | token => "token"
  | language => "language"
  | name => "Name"
  | ncName => "NCName"
  | qName => "QName"
  | nmToken => "NMTOKEN"
  | nmTokens => "NMTOKENS"
  | id => "ID"
  | idRef => "IDREF"
  | idRefs => "IDREFS"
  | entity => "ENTITY"
  | entities => "ENTITIES"
  | notationName => "NOTATION"
  | anyUri => "anyURI"
  | base64Binary => "base64Binary"
  | hexBinary => "hexBinary"
  | boolean => "boolean"
  | float => "float"
  | double => "double"
  | decimal => "decimal"
  | integer => "integer"
  | nonPositiveInteger => "nonPositiveInteger"
  | negativeInteger => "negativeInteger"
  | nonNegativeInteger => "nonNegativeInteger"
  | positiveInteger => "positiveInteger"
  | long => "long"
  | int => "int"
  | short => "short"
  | byte => "byte"
  | unsignedLong => "unsignedLong"
  | unsignedInt => "unsignedInt"
  | unsignedShort => "unsignedShort"
  | unsignedByte => "unsignedByte"
  | date => "date"
  | dateTime => "dateTime"
  | time => "time"
  | duration => "duration"
  | gDay => "gDay"
  | gMonth => "gMonth"
  | gMonthDay => "gMonthDay"
  | gYear => "gYear"
  | gYearMonth => "gYearMonth"
  | anySimpleType => "anySimpleType"

/-- Every built-in type, in the order of the declaration. -/
def all : List Primitive :=
  [string, normalizedString, token, language, name, ncName, qName, nmToken, nmTokens, id, idRef,
    idRefs, entity, entities, notationName, anyUri, base64Binary, hexBinary, boolean, float, double,
    decimal, integer, nonPositiveInteger, negativeInteger, nonNegativeInteger, positiveInteger, long,
    int, short, byte, unsignedLong, unsignedInt, unsignedShort, unsignedByte, date, dateTime, time,
    duration, gDay, gMonth, gMonthDay, gYear, gYearMonth, anySimpleType]

/-- The built-in type with a local name. -/
def ofLocalName? (s : String) : Option Primitive :=
  all.find? (·.localName == s)

/-- Whether the values are whole numbers. -/
def isInteger : Primitive → Bool
  | integer | nonPositiveInteger | negativeInteger | nonNegativeInteger | positiveInteger | long | int
  | short | byte | unsignedLong | unsignedInt | unsignedShort | unsignedByte => true
  | _ => false

/-- Whether the values are numbers with a fraction. -/
def isFloating : Primitive → Bool
  | float | double | decimal => true
  | _ => false

def isBoolean : Primitive → Bool
  | boolean => true
  | _ => false

/-- Whether the values identify elements. Attributes of such a type count as plain strings. -/
def isIdentifier : Primitive → Bool
  | id | idRef | idRefs => true
  | _ => false

theorem mem_all (p : Primitive) : p ∈ all := by
  cases p <;> decide

end Primitive

end SchemaBinding
