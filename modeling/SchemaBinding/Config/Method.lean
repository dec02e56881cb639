import SchemaBinding.Config.Pattern.Reader

/-!
# `SchemaBinding.Config.Method`: members that the user adds

A method spec adds source text to every generated type whose name its pattern matches.
-/

set_option autoImplicit false

namespace SchemaBinding

/-- Source text for the types whose names match a pattern. -/
structure MethodSpec where
  pattern : Pattern
  source : String
  deriving Repr, DecidableEq, Inhabited

namespace MethodSpec

/-- The spec of a written pattern, if it is one. -/
def ofString? (pattern source : String) : Option MethodSpec :=
  (Pattern.ofString? pattern).map (⟨·, source⟩)

def isFor (spec : MethodSpec) (typeName : String) : Bool := spec.pattern.occursIn typeName

/-- The mark in the source that stands for the name of the type. -/
def nameMark : String := "\x7bclass_name\x7d"

/-- The source for a type. -/
def render (spec : MethodSpec) (typeName : String) : String :=
  Text.replaceAll spec.source nameMark typeName

end MethodSpec

end SchemaBinding
