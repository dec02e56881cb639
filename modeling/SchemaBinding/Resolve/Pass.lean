import SchemaBinding.Diagnostics
import SchemaBinding.Schema.Model

/-!
# `SchemaBinding.Resolve.Pass`: passes over a model

Resolution is a sequence of passes. A pass takes a model and gives a model with findings; it never
fails. Passes are put together one after the other, and their findings keep that order.
-/

set_option autoImplicit false

namespace SchemaBinding

/-- What a pass gives: the changed model and what it found. -/
structure Resolved where
  model : Model
  findings : Diagnostics
  deriving Repr, DecidableEq, Inhabited

namespace Resolved

/-- Goes on with another pass. -/
def andThen (r : Resolved) (pass : Model → Resolved) : Resolved :=
  let next := pass r.model
  ⟨next.model, r.findings ++ next.findings⟩

/-- One step for each entry of a list, in order. -/
def forEach {α : Type} (m : Model) (entries : List α) (step : Model → α → Resolved) : Resolved :=
  entries.foldl (fun r entry => r.andThen (step · entry)) ⟨m, []⟩

end Resolved

namespace Model

/-- The nodes that take part in resolution: all that the root reaches, besides schema roots and references
to groups. -/
def declarations (m : Model) : List NodeId :=
  m.preorder.filter fun id => (m.node id).kind ≠ .schema && (m.node id).kind ≠ .groupRef

end Model

end SchemaBinding
