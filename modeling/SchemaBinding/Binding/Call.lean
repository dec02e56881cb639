import SchemaBinding.Binding.Field

/-!
# `SchemaBinding.Binding.Call`: what a back end is told

Generation is a list of calls, which a back end renders one after the other. The calls for one type form a block: its
name and its base, its documentation, its fields with validators, three sets of standard members, the
user's members, and the end.
-/

set_option autoImplicit false

namespace SchemaBinding

/-- One thing that a back end is told. -/
inductive Call where
  | beginType (parent : Option String) (name : String)
  | documentation (text : String)
  | field (f : Field)
  | validator (d : SimpleTypeDef)
  | comparators
  | serializeHooks
  | deserializeHooks
  | userMethods (source : String)
  | endType
  deriving Repr, DecidableEq, Inhabited

/-- The calls for fields. A validator follows the first field whose values a simple type restricts;
`validated` holds the names of the simple types that have one. -/
def fieldCalls (m : Model) (validated : List String) : List Field → List Call
  | [] => []
  | f :: rest =>
    match restriction? m f with
    | some d =>
      if validated.contains d.name then .field f :: fieldCalls m validated rest
      else .field f :: .validator d :: fieldCalls m (d.name :: validated) rest
    | none => .field f :: fieldCalls m validated rest

/-- The calls for a type and its base, which is given by its node. -/
def typeCalls (m : Model) (config : Config) (n : Node) (parent : Option Node) : List Call :=
  [.beginType (parent.map (·.cleanName)) n.cleanName] ++
    ((nonBlank? n.documentation).map Call.documentation).toList ++
    fieldCalls m [] (fields m config.accessorStyle n) ++
    [.comparators, .serializeHooks, .deserializeHooks] ++
    (config.methods.filter (·.isFor n.cleanName)).map (fun spec => .userMethods (spec.render n.cleanName)) ++
    [.endType]

end SchemaBinding
