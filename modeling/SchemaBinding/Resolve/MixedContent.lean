import SchemaBinding.Resolve.ExtensionChain
import SchemaBinding.Text.Quoted

/-!
# `SchemaBinding.Resolve.MixedContent`: mixed content along chains

Mixed content has to agree along an extension chain. Where one node of a chain is mixed, all of its nodes
become mixed, and so on through every chain that shares a node. A chain with a node that declares
itself not mixed cannot follow: its first node is marked, and the chain takes no further part. Chains that are
inconsistent from the start are found before anything is changed.
-/

set_option autoImplicit false

namespace SchemaBinding

/-- The finding for a chain that has no end. -/
def endlessChain (name : String) : Diagnostic :=
  Diagnostics.error name ("extension chain is cyclic or longer than " ++ toString maxExtensionDepth ++
    "; treated as not mixed")

/-- The finding for a chain with a mixed node and a node that declares itself not mixed. -/
def mixedConflict (name unmixed : String) : Diagnostic :=
  Diagnostics.error name ("mixed content conflicts with mixed=\"false\" on " ++ Text.quoted unmixed ++
    " in its extension chain")

/-- Whether some node of a chain is mixed. -/
def chainIsMixed (m : Model) (chain : List NodeId) : Bool :=
  chain.any fun id => (m.node id).mixed

/-- The first node of a chain that declares itself not mixed. -/
def declaredUnmixed? (m : Model) (chain : List NodeId) : Option NodeId :=
  chain.find? fun id => (m.node id).mixedDeclared = some false

/-- The nodes that are not mixed. -/
def unmixedCount (m : Model) : Nat := m.nodes.countP (!·.mixed)

/-- Chains that are still to be looked at, with the model and the findings so far. -/
structure MixedState where
  model : Model
  openChains : List (List NodeId)
  findings : Diagnostics
  deriving Repr, DecidableEq, Inhabited

namespace MixedState

/-- Marks the first node of an inconsistent chain, which `unmixed` declares itself not part of. -/
def flag (s : MixedState) (chain : List NodeId) (unmixed : NodeId) : MixedState :=
  match chain with
  | [] => s
  | first :: _ =>
    { s with
      model := s.model.modifyNode first fun n => { n with mixedExtensionError := true }
      findings := s.findings ++ [mixedConflict (s.model.node first).name (s.model.node unmixed).name] }

/-- Keeps a chain for the next round. -/
def keep (s : MixedState) (chain : List NodeId) : MixedState :=
  { s with openChains := s.openChains ++ [chain] }

/-- Makes every node of a chain mixed. -/
def mixAll (s : MixedState) (chain : List NodeId) : MixedState :=
  { s with model := chain.foldl (fun m id => m.modifyNode id fun n => { n with mixed := true }) s.model }

/-- Looks for a conflict in a chain before anything is changed. -/
def detect (s : MixedState) (chain : List NodeId) : MixedState :=
  match chainIsMixed s.model chain, declaredUnmixed? s.model chain with
  | true, some unmixed => s.flag chain unmixed
  | _, _ => s.keep chain

/-- Makes a chain mixed throughout if one of its nodes is, or flags it if it cannot be. -/
def equalize (s : MixedState) (chain : List NodeId) : MixedState :=
  match chainIsMixed s.model chain, declaredUnmixed? s.model chain with
  | true, some unmixed => s.flag chain unmixed
  | true, none => (s.mixAll chain).keep chain
  | false, _ => s.keep chain

/-- Looks at every open chain once. -/
def round (step : MixedState → List NodeId → MixedState) (s : MixedState) : MixedState :=
  s.openChains.foldl step { s with openChains := [] }

/-- Rounds until one of them makes no node mixed. -/
def settle (s : MixedState) : MixedState :=
  -- A node that a round made mixed can belong to a chain that was looked at before.
  let next := s.round equalize
  if unmixedCount next.model < unmixedCount s.model then settle next else next
  termination_by unmixedCount s.model

end MixedState

/-- The chains of all declarations that have a base, and the findings for those without an end. -/
def mixedChains (m : Model) : List (List NodeId) × Diagnostics :=
  let chains := (m.declarations.filter fun id => (m.node id).base.isSome).map fun id =>
    (id, m.extensionChain id)
  ((chains.filter (·.2.isComplete)).map (·.2.nodes),
    (chains.filter (!·.2.isComplete)).map fun c => endlessChain (m.node c.1).name)

/-- Makes mixed content agree along every chain. -/
def checkMixedChains (m : Model) : Resolved :=
  let (chains, endless) := mixedChains m
  let settled := ((MixedState.mk m chains endless).round .detect).settle
  ⟨settled.model, settled.findings⟩

end SchemaBinding
