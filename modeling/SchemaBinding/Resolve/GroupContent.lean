import SchemaBinding.Resolve.Pass

/-!
# `SchemaBinding.Resolve.GroupContent`: references to groups

A reference to a group stands for the particles of that group. The pass puts the particles in the place of
the reference, wherever the root reaches one. Expanded groups are remembered. A reference stays as it is
when its group is not declared, when it leads back into a group that is being expanded, or when
references nest too deep; each of these is reported.
-/

set_option autoImplicit false

namespace SchemaBinding

/-- How many references to groups may nest. -/
def maxGroupDepth : Nat := 64

/-- What is remembered between expansions: the particles of expanded groups, the cycles and unknown groups
that have been reported, and the findings. -/
structure GroupMemo where
  expanded : Table (List NodeId) := ∅
  reported : List String := []
  findings : Diagnostics := []
  deriving Repr, DecidableEq, Inhabited

namespace GroupMemo

def note (memo : GroupMemo) (d : Diagnostic) : GroupMemo :=
  { memo with findings := memo.findings ++ [d] }

/-- Reports a finding unless one with the same key has been reported. -/
def noteOnce (memo : GroupMemo) (key : String) (d : Diagnostic) : GroupMemo :=
  if memo.reported.contains key then memo
  else { memo.note d with reported := memo.reported ++ [key] }

end GroupMemo

/-- Names in ascending order. -/
def sortedNames (names : List String) : List String :=
  names.mergeSort fun a b => !(b < a)

/-- The groups of a cycle as one text, the same from wherever the cycle is entered. `path` leads to
`name`. -/
def cycleKey (path : List String) (name : String) : String :=
  " ".intercalate (sortedNames (path.dropWhile (· ≠ name)))

/-- The finding for a reference to `name` from inside of the groups on `path`, one of which it is. -/
def circularGroup (path : List String) (name : String) : Diagnostic :=
  Diagnostics.warning name ("circular group reference (" ++ " -> ".intercalate path ++ " -> " ++ name ++
    "); reference left unexpanded")

/-- The finding for a reference that nests too deep. -/
def deepGroup (name : String) : Diagnostic :=
  Diagnostics.warning name ("group references nest deeper than " ++ toString maxGroupDepth ++
    "; reference left unexpanded")

/-- The finding for a reference to a group that is not declared. -/
def unknownGroup (name : String) : Diagnostic :=
  Diagnostics.warning name "reference to unknown group; reference left unexpanded"

/-- The group that a node refers to, if it is a reference. -/
def Node.referencedGroup? (n : Node) : Option String :=
  if n.kind = .groupRef then n.groupRef else none

/-- Puts the particles of groups in the place of references to them. `expand` gives the particles of a
group, or none where the reference has to stay. -/
def spliceParticles (m : Model) (expand : GroupMemo → String → Option (List NodeId) × GroupMemo)
    (memo : GroupMemo) : List NodeId → List NodeId × GroupMemo
  | [] => ([], memo)
  | id :: rest =>
    match (m.node id).referencedGroup? with
    | none =>
      let (others, after) := spliceParticles m expand memo rest
      (id :: others, after)
    | some name =>
      -- A reference that has no particles stays where it is.
      let (content, after) := expand memo name
      let (others, last) := spliceParticles m expand after rest
      (content.getD [id] ++ others, last)

/-- The particles of a group. `path` holds the groups around the reference, outermost first, and `room` is
how many more of them there may be. -/
def expandGroup (m : Model) : (room : Nat) → (path : List String) → GroupMemo → String →
    Option (List NodeId) × GroupMemo
  | room, path, memo, name =>
    match memo.expanded.get? name with
    | some particles => (some particles, memo)
    | none =>
      -- A cycle is reported once, and an undeclared group once, but each reference that nests too deep.
      if path.contains name then
        (none, memo.noteOnce (cycleKey path name) (circularGroup path name))
      else
        match room with
        | 0 => (none, memo.note (deepGroup name))
        | room + 1 =>
          match m.symbols.elementGroups.get? name with
          | none => (none, memo.noteOnce ("unknown " ++ name) (unknownGroup name))
          | some id =>
            let (particles, after) :=
              spliceParticles m (expandGroup m room (path ++ [name])) memo (m.children id)
            (some particles, { after with expanded := after.expanded.insert name particles })

/-- Expands every declared group, in the order of their names. -/
def expandDeclaredGroups (m : Model) : GroupMemo :=
  (sortedNames m.symbols.elementGroups.keys).foldl
    (fun memo name => (expandGroup m maxGroupDepth [] memo name).2) {}

/-- Expands the references among the children of a node. -/
def spliceChildren (m : Model) (memo : GroupMemo) (id : NodeId) : Model × GroupMemo :=
  if (m.children id).any fun child => (m.node child).kind = .groupRef then
    let (particles, after) := spliceParticles m (expandGroup m maxGroupDepth []) memo (m.children id)
    (m.modifyNode id fun n => { n with children := particles }, after)
  else (m, memo)

theorem size_modifyNode (m : Model) (id : NodeId) (f : Node → Node) :
    (m.modifyNode id f).nodes.size = m.nodes.size := by
  simp [Model.modifyNode]

theorem size_spliceChildren (m : Model) (memo : GroupMemo) (id : NodeId) :
    (spliceChildren m memo id).1.nodes.size = m.nodes.size := by
  unfold spliceChildren
  split
  · exact size_modifyNode _ _ _
  · rfl

/-- Walks down from the nodes on the work list, and expands the children of each node when it is reached for
the first time, so that particles of a group are walked too. -/
def spliceReachable (m : Model) (memo : GroupMemo) (seen : List NodeId) :
    List NodeId → Model × GroupMemo
  | [] => (m, memo)
  | id :: rest =>
    if _h : seen.contains id = false ∧ id.index < m.nodes.size then
      let spliced := spliceChildren m memo id
      spliceReachable spliced.1 spliced.2 (seen ++ [id]) (spliced.1.children id ++ rest)
    else spliceReachable m memo seen rest
  termination_by work => (m.unlisted seen, work.length)
  decreasing_by
    -- A node that is walked for the first time leaves fewer nodes unlisted. Any other one shortens the work.
    · refine Prod.Lex.left _ _ ?_
      rw [Model.unlisted_congr (size_spliceChildren m memo id)]
      exact Model.unlisted_concat_lt _h.1 _h.2
    · exact Prod.Lex.right _ (by simp)

/-- Replaces the references to groups by the particles of the groups. -/
def flattenGroups (m : Model) : Resolved :=
  let (flat, memo) := spliceReachable m (expandDeclaredGroups m) [] [Model.root]
  ⟨flat, memo.findings⟩

end SchemaBinding
