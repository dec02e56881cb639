import SchemaBinding.Resolve.Pass
import SchemaBinding.Text.Quoted

/-!
# `SchemaBinding.Resolve.TypeChains`: what a type name comes down to

A simple type names a base, which may be another simple type, and so on down to a built-in type. An element
may have the type of another element. Both kinds of chain are followed for a limited number of steps; a
chain that goes on longer is taken for a cycle and counts as string.
-/

set_option autoImplicit false

namespace SchemaBinding

open Text (quoted)

/-- How many steps a chain of types may take. -/
def maxAliasHops : Nat := 10

/-- What following a simple type gives. Without a built-in type at its end the chain counts as string. -/
structure SimpleChain where
  primitive : Option Primitive := none
  facets : Option Facets := none
  isList : Bool := false
  collapseWhiteSpace : Bool := false
  deriving Repr, DecidableEq, Inhabited

namespace SimpleChain

def primitiveOrString (c : SimpleChain) : Primitive := c.primitive.getD .string

/-- The chain after it takes in one more definition. The first restricted facets count. -/
def extend (c : SimpleChain) (d : SimpleTypeDef) : SimpleChain :=
  { c with
    isList := c.isList || d.isList
    collapseWhiteSpace := c.collapseWhiteSpace || d.collapseWhiteSpace
    facets := if c.facets.isNone && d.facets.isRestricted then some d.facets else c.facets }

end SimpleChain

/-- The findings of chains, each for a node that is given by its name. -/
def undeclaredSimpleType (owner name : String) : Diagnostic :=
  Diagnostics.warning owner ("simple type " ++ quoted name ++ " is not declared; using string")

def baseNotSimple (owner base name : String) : Diagnostic :=
  Diagnostics.warning owner ("base " ++ quoted base ++ " of simple type " ++ quoted name ++
    " is not a simple type; using string")

def longSimpleChain (owner start : String) : Diagnostic :=
  Diagnostics.warning owner ("simple type chain from " ++ quoted start ++ " exceeds " ++
    toString maxAliasHops ++ " hops; assuming a cycle and using string")

def undeclaredType (owner name : String) : Diagnostic :=
  Diagnostics.warning owner ("type " ++ quoted name ++ " is not declared; using string")

def longElementChain (owner start : String) : Diagnostic :=
  Diagnostics.warning owner ("element type chain from " ++ quoted start ++ " exceeds " ++
    toString maxAliasHops ++ " hops; using string")

/-- Follows the base of a simple type for at most `room` more steps. `chain` is what the steps before
gave. -/
def chaseSimpleFrom (m : Model) (owner start : String) :
    (room : Nat) → SimpleChain → String → SimpleChain × Diagnostics
  | room, chain, name =>
    match m.simpleType? name with
    | none => (chain, [undeclaredSimpleType owner name])
    | some d =>
      let chain := chain.extend d
      match d.base.map m.builtins.classify with
      | none | some .anyType => (chain, [])
      | some (.primitive p) => ({ chain with primitive := some p }, [])
      | some (.named next) =>
        if (m.simpleType? next).isNone then (chain, [baseNotSimple owner next name])
        else
          match room with
          | 0 => ({ chain with primitive := none }, [longSimpleChain owner start])
          | room + 1 => chaseSimpleFrom m owner start room chain next

/-- Follows a simple type down to a built-in type. -/
def chaseSimple (m : Model) (owner start : String) : SimpleChain × Diagnostics :=
  chaseSimpleFrom m owner start maxAliasHops {} start

/-- What the type of a node comes down to, with what the node takes over from it. -/
structure Resolution where
  type : ResolvedType
  isComplex : Bool := false
  facets : Option Facets := none
  simpleTypeName : Option String := none
  isList : Bool := false
  collapseWhiteSpace : Bool := false
  deriving Repr, DecidableEq, Inhabited

namespace Resolution

def ofPrimitive (p : Primitive) : Resolution := { type := .primitive p }

/-- The resolution of a declaration that is its own type. -/
def complex (name : String) : Resolution := { type := .named name, isComplex := true }

/-- The resolution of a type name that a simple type carries. -/
def ofChain (name : String) (chain : SimpleChain) : Resolution :=
  { type := .primitive chain.primitiveOrString
    facets := chain.facets
    simpleTypeName := some name
    isList := chain.isList
    collapseWhiteSpace := chain.collapseWhiteSpace }

end Resolution

/-- Where the type of a registered element leads: to a result, or to another element. -/
inductive ElementStep where
  | done (r : Resolution) (findings : Diagnostics)
  | onward (name : String)
  deriving Repr, DecidableEq, Inhabited

/-- One step from the element that is registered under `name`. -/
def elementStep (m : Model) (owner name : String) (n : Node) : ElementStep :=
  match m.builtins.classify n.declaredType with
  | .primitive p => .done (.ofPrimitive p) []
  | .anyType => .done { type := .any } []
  | .named next =>
    if (m.simpleType? next).isSome then
      let (chain, findings) := chaseSimple m owner next
      .done (.ofChain next chain) findings
    -- A declaration that names itself is where its type is declared.
    else if next = name then .done (.complex name) []
    else if (m.element? next).isSome then .onward next
    else .done (.ofPrimitive .string) [undeclaredType owner next]

/-- Follows the types of elements for at most `room` steps. `facets` are the last restricted facets on the
way; they count unless a simple type at the end has facets of its own. -/
def chaseElementsFrom (m : Model) (owner start : String) :
    (room : Nat) → Option Facets → String → Resolution × Diagnostics
  | 0, _, _ => (.ofPrimitive .string, [longElementChain owner start])
  | room + 1, facets, name =>
    match m.element? name with
    | none => (.ofPrimitive .string, [longElementChain owner start])
    | some id =>
      let n := m.node id
      let facets := if n.facets.isRestricted then some n.facets else facets
      match elementStep m owner name n with
      | .done r findings => ({ r with facets := r.facets.or facets }, findings)
      | .onward next => chaseElementsFrom m owner start room facets next

/-- Follows the type of a registered element. -/
def chaseElements (m : Model) (owner start : String) : Resolution × Diagnostics :=
  chaseElementsFrom m owner start (maxAliasHops + 1) none start

end SchemaBinding
