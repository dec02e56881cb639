import SchemaBinding.Resolve.AttributeGroups
import SchemaBinding.Resolve.AttributeNames
import SchemaBinding.Resolve.GroupContent
import SchemaBinding.Resolve.MixedContent
import SchemaBinding.Resolve.Registration
import SchemaBinding.Resolve.Types
import SchemaBinding.Schema.Source

/-!
# `SchemaBinding.Resolve`: from a schema as read to a schema as meant

Resolution runs its passes in a fixed order, each on the finished result of the one before: references to
groups, references to attribute groups, names, types, mixed content, attributes named like elements, and
extended types.
-/

set_option autoImplicit false

namespace SchemaBinding

/-- Resolves a model. -/
def resolve (names : NameTable) (m : Model) : Resolved :=
  (flattenGroups m)
    |>.andThen expandAttributeGroups
    |>.andThen (registerSymbols names)
    |>.andThen resolveTypes
    |>.andThen checkMixedChains
    |>.andThen disambiguateNames
    |>.andThen markExtended

/-- Reads and resolves a document. -/
def readSchema (prefixOverride : Option String) (names : NameTable) (source : String) :
    Except SchemaError Resolved :=
  (Model.ofSource prefixOverride source).map (resolve names)

end SchemaBinding
