import SchemaBinding.Markup.Error
import SchemaBinding.Text.Quoted

/-!
# `SchemaBinding.Schema.Error`: what makes a document no schema

Each of these ends the reading of a document. What is wrong with a schema that can be read is reported
otherwise, as a diagnostic.
-/

set_option autoImplicit false

namespace SchemaBinding

/-- A construct where it cannot stand. -/
inductive Misplacement where
  | afterRoot
  | nestedSchema
  | strayAttribute
  | strayFacet
  | unbalancedConstruct
  deriving Repr, DecidableEq, Inhabited

/-- Why a document is no schema. -/
inductive SchemaError where
  | markup (cause : Markup.Error)
  | attributes (cause : Markup.AttributeError)
  | unbalancedEnd (expected found : String)
  | unexpectedEnd (name : String)
  | unclosed (count : Nat)
  | missingSchemaRoot
  | malformedNesting (tag : String) (reason : Misplacement)
  | missingAttribute (tag missing : String)
  | invalidOccurs (tag name value : String)
  deriving Repr, DecidableEq, Inhabited

def Misplacement.message : Misplacement → String
  | afterRoot => "appears after the schema root was closed"
  | nestedSchema => "is nested inside another schema"
  | strayAttribute => "is not inside an element, complex type or attribute group"
  | strayFacet => "is outside of any simple type, element or attribute"
  | unbalancedConstruct => "closes a construct that is not on top of the stack"

open Text in
def SchemaError.message : SchemaError → String
  | markup cause => "XML syntax error: " ++ cause.message
  | attributes cause => "Malformed attribute: " ++ cause.message
  | unbalancedEnd expected found =>
    "End tag " ++ quoted found ++ " does not match open tag " ++ quoted expected
  | unexpectedEnd name => "End tag " ++ quoted name ++ " without a matching start tag"
  | unclosed count => "Event stream ended with " ++ toString count ++ " unclosed tag(s)"
  | missingSchemaRoot => "Document has no schema root element"
  | malformedNesting tag reason => "<" ++ tag ++ "> " ++ reason.message
  | missingAttribute tag missing =>
    "Top-level <" ++ tag ++ "> is missing the " ++ quoted missing ++ " attribute"
  | invalidOccurs tag name value =>
    "<" ++ tag ++ "> has an invalid " ++ name ++ " value " ++ quoted value

end SchemaBinding
