import SchemaBinding.Binding.Call
import SchemaBinding.Diagnostics
import SchemaBinding.Text.Quoted

/-!
# `SchemaBinding.Binding.Generation`: the order in which types are generated

Every emittable declaration is generated once, and after the type that it derives from. A declaration whose base is
not there yet waits in a queue, which is gone through again and again after the top level, latest entry
first, until a pass brings nothing new. Complex types inside of elements are found when their parent is
generated; they come afterwards, in batches, each of which is followed by the same passes.

The outcome is the list of calls for a back end, and a report.
-/

set_option autoImplicit false

namespace SchemaBinding

/-- How many passes over the queue a drain may take. -/
def maxDrainCycles : Nat := 1000

/-- What has become of a declaration. -/
inductive NodeState where
  | unvisited
  | emitted
  | rejected
  deriving Repr, DecidableEq, Inhabited

/-- The outcome of a run: the clean names of the generated and of the rejected types, the types whose base never
came with that base, the number of passes over the queue, and the findings. -/
structure Report where
  emitted : List String := []
  rejected : List String := []
  unresolved : List (String × String) := []
  cycles : Nat := 0
  findings : Diagnostics := []
  deriving Repr, DecidableEq, Inhabited

/-- A run of generation. -/
structure Run where
  /-- What has become of each declaration, the latest word first. -/
  states : List (NodeId × NodeState) := []
  /-- Declarations whose base is not there yet. -/
  postponed : List NodeId := []
  /-- Types inside of elements that are still to be visited, and all that ever were in that queue. -/
  pending : List NodeId := []
  queued : List NodeId := []
  calls : List Call := []
  report : Report := {}
  deriving Repr, DecidableEq, Inhabited

/-- The emittable declarations at the top level, by name. A later one takes the place of an earlier one. -/
def typesByName (m : Model) : Table NodeId :=
  .ofList ((m.topLevel.filter fun id => (m.node id).isEmittable).map fun id => ((m.node id).name, id))

/-- The declaration that gets generated under a base name: the registered one if it is emittable, else the
one at the top level. -/
def generatedType? (m : Model) (name : String) : Option NodeId :=
  ((m.element? name).filter fun id => (m.node id).isEmittable).or ((typesByName m).get? name)

/-- The declaration that a type derives from: by extension, or else by restriction. -/
def parent? (m : Model) (id : NodeId) : Option NodeId :=
  let n := m.node id
  (n.base.bind (generatedType? m)).or (n.restrictionBase.bind (generatedType? m))

namespace Run

def state (r : Run) (id : NodeId) : NodeState := (r.states.lookup id).getD .unvisited

def setState (r : Run) (id : NodeId) (s : NodeState) : Run := { r with states := (id, s) :: r.states }

/-- Leaves a declaration out, and reports why. -/
def reject (m : Model) (r : Run) (id : NodeId) (message : String) : Run :=
  let n := m.node id
  { r.setState id .rejected with
    report :=
      { r.report with
        rejected := r.report.rejected ++ [n.cleanName]
        findings := r.report.findings ++ [Diagnostics.error n.name message] } }

/-- Puts a type inside of an element into the queue, unless it has been there or is generated already. -/
def queueInner (m : Model) (r : Run) (id : NodeId) : Run :=
  let n := m.node id
  if n.isEmittable && !n.isTopLevel && r.state id = .unvisited && !r.queued.contains id then
    { r with pending := r.pending ++ [id], queued := r.queued ++ [id] }
  else r

/-- Generates a declaration, and queues the types inside of it. -/
def emit (m : Model) (config : Config) (r : Run) (id : NodeId) (parent : Option NodeId) : Run :=
  let n := m.node id
  let emitted : Run :=
    { r.setState id .emitted with
      calls := r.calls ++ typeCalls m config n (parent.map m.node)
      report := { r.report with emitted := r.report.emitted ++ [n.cleanName] } }
  n.children.foldl (queueInner m) emitted

/-- Puts a declaration into the queue of those whose base is not there yet. -/
def postpone (r : Run) (id : NodeId) : Run :=
  if r.postponed.contains id then r else { r with postponed := r.postponed ++ [id] }

/-- Generates a declaration whose base is there, unless it is inconsistent. -/
def settle (m : Model) (config : Config) (r : Run) (id : NodeId) (parent : Option NodeId) : Run :=
  if (m.node id).mixedExtensionError then
    r.reject m id "not generated: mixed content is inconsistent along its extension chain"
  else r.emit m config id parent

/-- Generates a declaration, rejects it or lets it wait. One whose clean name has been generated counts as
generated. -/
def visit (m : Model) (config : Config) (r : Run) (id : NodeId) : Run :=
  if r.state id ≠ .unvisited then r
  else if r.report.emitted.contains (m.node id).cleanName then r.setState id .emitted
  else
    match parent? m id with
    | none => r.settle m config id none
    | some parent =>
      -- The base comes first, so a type waits as long as nothing is known of its base.
      match r.state parent with
      | .emitted => r.settle m config id (some parent)
      | .rejected =>
        r.reject m id ("not generated: base " ++ Text.quoted (m.node parent).name ++ " was rejected")
      | .unvisited => r.postpone id

/-- Visits several declarations. -/
def visitAll (m : Model) (config : Config) (r : Run) (ids : List NodeId) : Run :=
  ids.foldl (visit m config) r

/-- One pass over the queue, latest entry first. What still waits keeps its order. -/
def drainOnce (m : Model) (config : Config) (r : Run) : Run :=
  let taken := { r with postponed := [], report := { r.report with cycles := r.report.cycles + 1 } }
  let visited := taken.visitAll m config r.postponed.reverse
  { visited with postponed := visited.postponed.reverse }

/-- The finding for a queue that goes on changing. -/
def unsettledQueue : Diagnostic :=
  Diagnostics.error "" ("postponement queue did not settle after " ++ toString maxDrainCycles ++ " passes")

/-- Passes over the queue until it is empty or a pass leaves its length unchanged, at most `room` of
them. -/
def drainFor (m : Model) (config : Config) : (room : Nat) → Run → Run
  | room, r =>
    if r.postponed.isEmpty then r
    else
      match room with
      | 0 => { r with report := { r.report with findings := r.report.findings ++ [unsettledQueue] } }
      | room + 1 =>
        let next := r.drainOnce m config
        -- A pass that settles nothing would be followed by passes like it.
        if next.postponed.length = r.postponed.length then next else drainFor m config room next

/-- Passes over the queue. -/
def drain (m : Model) (config : Config) (r : Run) : Run := drainFor m config maxDrainCycles r

/-- The declarations that a run may still have to visit in batches: those not queued yet, and those in the
queue. -/
def innerWork (m : Model) (r : Run) : Nat := m.unlisted r.queued + r.pending.length

/-- One batch of types inside of elements, and the passes after it. -/
def visitBatch (m : Model) (config : Config) (r : Run) : Run :=
  ({ r with pending := [] }.visitAll m config r.pending).drain m config

theorem isEmittable_default : (default : Node).isEmittable = false := rfl

theorem lt_size_of_isEmittable {m : Model} {id : NodeId} (h : (m.node id).isEmittable = true) :
    id.index < m.nodes.size := by
  by_cases hid : id.index < m.nodes.size
  · exact hid
  · simp [Model.node, Array.getD, hid, isEmittable_default] at h

theorem innerWork_queueInner (m : Model) (r : Run) (id : NodeId) :
    (queueInner m r id).innerWork m ≤ r.innerWork m := by
  unfold queueInner
  simp only
  split
  · rename_i h
    simp only [Bool.and_eq_true, Bool.not_eq_true', decide_eq_true_eq] at h
    -- The queue gets longer by one, and one place fewer is left to be queued.
    have hlt : m.unlisted (r.queued ++ [id]) < m.unlisted r.queued :=
      Model.unlisted_concat_lt h.2 (lt_size_of_isEmittable h.1.1.1)
    simp only [innerWork, List.length_append, List.length_singleton]
    omega
  · exact Nat.le_refl _

theorem innerWork_foldl_le {m : Model} {step : Run → NodeId → Run}
    (hstep : ∀ r id, (step r id).innerWork m ≤ r.innerWork m) (ids : List NodeId) (r : Run) :
    (ids.foldl step r).innerWork m ≤ r.innerWork m := by
  induction ids generalizing r with
  | nil => exact Nat.le_refl _
  | cons id rest ih => exact Nat.le_trans (ih _) (hstep r id)

theorem innerWork_emit (m : Model) (config : Config) (r : Run) (id : NodeId) (parent : Option NodeId) :
    (r.emit m config id parent).innerWork m ≤ r.innerWork m :=
  innerWork_foldl_le (innerWork_queueInner m) _ _

theorem innerWork_settle (m : Model) (config : Config) (r : Run) (id : NodeId)
    (parent : Option NodeId) : (r.settle m config id parent).innerWork m ≤ r.innerWork m := by
  unfold settle
  split
  · exact Nat.le_refl _
  · exact innerWork_emit m config r id parent

theorem innerWork_visit (m : Model) (config : Config) (r : Run) (id : NodeId) :
    (visit m config r id).innerWork m ≤ r.innerWork m := by
  unfold visit
  split
  · exact Nat.le_refl _
  · split
    · exact Nat.le_refl _
    · split
      · exact innerWork_settle ..
      · split
        · exact innerWork_settle ..
        · exact Nat.le_refl _
        · unfold postpone
          split <;> exact Nat.le_refl _

theorem innerWork_visitAll (m : Model) (config : Config) (r : Run) (ids : List NodeId) :
    (r.visitAll m config ids).innerWork m ≤ r.innerWork m :=
  innerWork_foldl_le (innerWork_visit m config) ids r

theorem innerWork_drainFor (m : Model) (config : Config) (room : Nat) (r : Run) :
    (drainFor m config room r).innerWork m ≤ r.innerWork m := by
  have honce : ∀ r : Run, (r.drainOnce m config).innerWork m ≤ r.innerWork m := fun r =>
    innerWork_visitAll m config { r with postponed := [], report := _ } _
  induction room generalizing r with
  | zero =>
      unfold drainFor
      split <;> exact Nat.le_refl _
  | succ room ih =>
      unfold drainFor
      split
      · exact Nat.le_refl _
      · simp only
        split
        · exact honce r
        · exact Nat.le_trans (ih _) (honce r)

theorem innerWork_visitBatch_lt {m : Model} {config : Config} {r : Run} (h : r.pending.isEmpty = false) :
    (r.visitBatch m config).innerWork m < r.innerWork m := by
  have hle := Nat.le_trans (innerWork_drainFor m config maxDrainCycles _)
    (innerWork_visitAll m config { r with pending := [] } r.pending)
  refine Nat.lt_of_le_of_lt hle ?_
  -- The batch empties a queue that was not empty.
  have hpos : 0 < r.pending.length := by
    cases hp : r.pending with
    | nil => simp [hp] at h
    | cons id rest => simp
  simp only [innerWork, List.length_nil]
  omega

/-- Batches of types inside of elements, until none is found any more. -/
def visitBatches (m : Model) (config : Config) (r : Run) : Run :=
  if _h : r.pending.isEmpty = false then visitBatches m config (r.visitBatch m config) else r
  termination_by r.innerWork m
  decreasing_by exact innerWork_visitBatch_lt _h

/-- Reports every declaration that still waits. -/
def reportUnresolved (m : Model) (r : Run) : Run :=
  let entry (id : NodeId) : String × String :=
    let n := m.node id
    (n.cleanName, (n.base.or n.restrictionBase).getD "")
  let finding (id : NodeId) : Diagnostic :=
    Diagnostics.error (m.node id).name
      ("not generated: base " ++ Text.quoted (entry id).2 ++ " never became available")
  { r with
    postponed := []
    report :=
      { r.report with
        unresolved := r.report.unresolved ++ r.postponed.map entry
        findings := r.report.findings ++ r.postponed.map finding } }

/-- The declarations at the top level that get visited: those that are emittable and the last of their
name. -/
def topLevelTypes (m : Model) : List NodeId :=
  m.topLevel.filter fun id =>
    (m.node id).isEmittable && (typesByName m).get? (m.node id).name = some id

/-- The whole run: the top level, the batches of types inside of elements, and what is left over. -/
def all (m : Model) (config : Config) : Run :=
  ((({} : Run).visitAll m config (topLevelTypes m)).drain m config)
    |>.visitBatches m config
    |>.reportUnresolved m

end Run

/-- What a run of generation gives: the calls for a back end, and the report. -/
structure Generated where
  calls : List Call
  report : Report
  deriving Repr, DecidableEq, Inhabited

/-- Generates every emittable type of a model. -/
def generate (config : Config) (m : Model) : Generated :=
  let r := Run.all m config
  ⟨r.calls, r.report⟩

end SchemaBinding
