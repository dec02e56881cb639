import SchemaBinding.Resolve.Pass

/-!
# `SchemaBinding.Resolve.ExtensionChain`: chains of bases

A node that extends a registered declaration starts a chain, which goes on with the base of that declaration.
A chain is cut where it would come back to one of its nodes or grow too long.
-/

set_option autoImplicit false

namespace SchemaBinding

/-- How many steps a chain may take. -/
def maxExtensionDepth : Nat := 100

/-- The nodes along a chain, and whether the chain was followed to its end. -/
structure ExtensionChain where
  nodes : List NodeId
  isComplete : Bool
  deriving Repr, DecidableEq, Inhabited

namespace Model

/-- The registered declaration that a node extends. -/
def registeredBase? (m : Model) (id : NodeId) : Option NodeId :=
  (m.node id).base.bind m.element?

/-- Follows the bases from `id`, the last node of `chain`, for at most `room` more steps. -/
def extendChain (m : Model) : (room : Nat) → (chain : List NodeId) → (id : NodeId) → ExtensionChain
  | room, chain, id =>
    match m.registeredBase? id with
    | none => ⟨chain, true⟩
    | some base =>
      if chain.contains base then ⟨chain, false⟩
      else
        match room with
        | 0 => ⟨chain, false⟩
        | room + 1 => extendChain m room (chain ++ [base]) base

/-- The chain of a node, which begins with the node itself. -/
def extensionChain (m : Model) (id : NodeId) : ExtensionChain :=
  m.extendChain maxExtensionDepth [id] id

end Model

/-- Marks the declaration that a node extends, unless it is the node itself. -/
def markBase (m : Model) (id : NodeId) : Resolved :=
  match m.registeredBase? id with
  | some base =>
    if base = id then ⟨m, []⟩ else ⟨m.modifyNode base fun n => { n with isExtended := true }, []⟩
  | none => ⟨m, []⟩

/-- Marks every declaration that another one extends. -/
def markExtended (m : Model) : Resolved :=
  .forEach m m.declarations markBase

end SchemaBinding
