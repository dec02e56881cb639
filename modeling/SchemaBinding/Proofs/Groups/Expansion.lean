import SchemaBinding.Proofs.Groups.Reference

/-!
# `SchemaBinding.Proofs.Groups.Expansion`: the course of an expansion

`Expands` says what an expansion does, one member for each way that a group or a list of particles can go. A group
may be known from before, or lead back into the path, nest too deep, be unknown, or be expanded by its definition.
Each reference that has to stay is noted (`GroupNote`). What is known afterwards does not depend on what was
reported before, so the memo enters only where notes are told (`GroupMemo.tellAll`).

The functions that run take one of these ways (`expands_expandGroup`, `expands_spliceParticles`), and facts about
expansions are proved by induction on `Expands`. An expansion is `Entered` properly when the path is a path of
references. This is so at the top, and it stays so on the way down.
-/

set_option autoImplicit false

namespace SchemaBinding

/-- Why a reference to a group stays where it is. The path holds the groups around the reference. -/
inductive GroupNote where
  | circular (path : List String) (name : String)
  | deep (path : List String) (name : String)
  | unknown (name : String)

namespace GroupNote

/-- The group that the reference names. -/
def name : GroupNote → String
  | circular _ name => name
  | deep _ name => name
  | unknown name => name

def diagnostic : GroupNote → Diagnostic
  | circular path name => circularGroup path name
  | deep _ name => deepGroup name
  | unknown name => unknownGroup name

/-- The key under which a note is told once. A reference that nests too deep is told each time. -/
def key? : GroupNote → Option String
  | circular path name => some (cycleKey path name)
  | deep _ _ => none
  | unknown name => some ("unknown " ++ name)

end GroupNote

namespace GroupMemo

def tell (memo : GroupMemo) (note : GroupNote) : GroupMemo :=
  match note.key? with
  | some key => memo.noteOnce key note.diagnostic
  | none => memo.note note.diagnostic

def tellAll (memo : GroupMemo) (notes : List GroupNote) : GroupMemo := notes.foldl tell memo

/-- The memo after some notes have been told and the known groups have become others. -/
def advance (memo : GroupMemo) (notes : List GroupNote) (known : Table (List NodeId)) : GroupMemo :=
  { memo.tellAll notes with expanded := known }

theorem expanded_tell (memo : GroupMemo) (note : GroupNote) : (memo.tell note).expanded = memo.expanded := by
  unfold tell noteOnce
  split
  · split <;> rfl
  · rfl

theorem expanded_tellAll (memo : GroupMemo) (notes : List GroupNote) :
    (memo.tellAll notes).expanded = memo.expanded := by
  induction notes generalizing memo with
  | nil => rfl
  | cons note rest ih => exact (ih (memo.tell note)).trans (memo.expanded_tell note)

theorem tell_withExpanded (memo : GroupMemo) (note : GroupNote) (known : Table (List NodeId)) :
    { memo with expanded := known }.tell note = { memo.tell note with expanded := known } := by
  unfold tell noteOnce
  split
  · dsimp only
    split <;> rfl
  · rfl

/-- Telling does not look at what is known. -/
theorem tellAll_withExpanded (memo : GroupMemo) (notes : List GroupNote) (known : Table (List NodeId)) :
    { memo with expanded := known }.tellAll notes = { memo.tellAll notes with expanded := known } := by
  induction notes generalizing memo with
  | nil => rfl
  | cons note rest ih =>
      calc { memo with expanded := known }.tellAll (note :: rest)
        _ = ({ memo with expanded := known }.tell note).tellAll rest := rfl
        _ = { memo.tell note with expanded := known }.tellAll rest := by rw [tell_withExpanded]
        _ = { memo.tellAll (note :: rest) with expanded := known } := ih (memo.tell note)

theorem advance_nil (memo : GroupMemo) : memo.advance [] memo.expanded = memo := rfl

theorem advance_expanded (memo : GroupMemo) (notes : List GroupNote) :
    memo.advance notes memo.expanded = memo.tellAll notes := by
  rw [← memo.expanded_tellAll notes]
  rfl

theorem advance_singleton (memo : GroupMemo) (note : GroupNote) :
    memo.advance [note] memo.expanded = memo.tell note :=
  memo.advance_expanded [note]

theorem advance_advance (memo : GroupMemo) (notes more : List GroupNote) (known last : Table (List NodeId)) :
    (memo.advance notes known).advance more last = memo.advance (notes ++ more) last := by
  unfold advance
  rw [tellAll_withExpanded, tellAll, tellAll, tellAll, List.foldl_append]

/-- What has been told does not depend on what is known. -/
theorem findings_tellAll_advance (memo : GroupMemo) (notes more : List GroupNote) (known : Table (List NodeId)) :
    ((memo.advance notes known).tellAll more).findings = (memo.tellAll (notes ++ more)).findings := by
  unfold advance
  rw [tellAll_withExpanded, tellAll, tellAll, tellAll, List.foldl_append]

end GroupMemo

/-! ### The ways of an expansion -/

/-- What is expanded: a group, or the references in a list of particles. -/
inductive GroupTask where
  | group (name : String)
  | particles (ids : List NodeId)

/-- Inside of the groups on `path`, with `room` for more of them and with some groups known, an expansion gives a
result. It notes references that stay, and more groups are known after it. -/
inductive Expands (m : Model) : (room : Nat) → (path : List String) → (known : Table (List NodeId)) → GroupTask →
    Option (List NodeId) → List GroupNote → Table (List NodeId) → Prop where
  | remembered {room path known name particles} (hknown : known.get? name = some particles) :
      Expands m room path known (.group name) (some particles) [] known
  | circular {room path known name} (hnew : ¬ known.Has name) (hpath : name ∈ path) :
      Expands m room path known (.group name) none [.circular path name] known
  | deep {path known name} (hnew : ¬ known.Has name) (hpath : name ∉ path) :
      Expands m 0 path known (.group name) none [.deep path name] known
  | unknown {room path known name} (hnew : ¬ known.Has name) (hpath : name ∉ path) (hnone : ¬ IsDeclared m name) :
      Expands m (room + 1) path known (.group name) none [.unknown name] known
  | defined {room path known name id particles notes after} (hnew : ¬ known.Has name) (hpath : name ∉ path)
      (hid : m.symbols.elementGroups.get? name = some id)
      (hbody : Expands m room (path ++ [name]) known (.particles (m.children id)) (some particles) notes after) :
      Expands m (room + 1) path known (.group name) (some particles) notes (after.insert name particles)
  | nil {room path known} : Expands m room path known (.particles []) (some []) [] known
  | particle {room path known id rest others notes after} (hid : (m.node id).referencedGroup? = none)
      (hrest : Expands m room path known (.particles rest) (some others) notes after) :
      Expands m room path known (.particles (id :: rest)) (some (id :: others)) notes after
  | reference {room path known id rest name content notes after others more last}
      (hid : (m.node id).referencedGroup? = some name)
      (hgroup : Expands m room path known (.group name) content notes after)
      (hrest : Expands m room path after (.particles rest) (some others) more last) :
      Expands m room path known (.particles (id :: rest)) (some (content.getD [id] ++ others)) (notes ++ more) last

/-- A run of the functions goes the way of an expansion. -/
def RunsAs (m : Model) (room : Nat) (path : List String) (memo : GroupMemo) (task : GroupTask)
    (result : Option (List NodeId)) (after : GroupMemo) : Prop :=
  ∃ notes known, Expands m room path memo.expanded task result notes known ∧ after = memo.advance notes known

section
variable (m : Model)

/-- If the groups go the way of an expansion, then so do the particles in a list. -/
theorem runsAs_spliceParticles_of {room : Nat} {path : List String}
    (hgroup : ∀ memo name, RunsAs m room path memo (.group name) (expandGroup m room path memo name).1
      (expandGroup m room path memo name).2) (memo : GroupMemo) (ids : List NodeId) :
    RunsAs m room path memo (.particles ids) (some (spliceParticles m (expandGroup m room path) memo ids).1)
      (spliceParticles m (expandGroup m room path) memo ids).2 := by
  induction ids generalizing memo with
  | nil => exact ⟨[], memo.expanded, .nil, memo.advance_nil.symm⟩
  | cons id rest ih =>
      unfold spliceParticles
      split
      · rename_i hid
        obtain ⟨notes, known, hrest, heq⟩ := ih memo
        exact ⟨notes, known, .particle hid hrest, heq⟩
      · rename_i name hid
        obtain ⟨notes, known, hcontent, heq⟩ := hgroup memo name
        obtain ⟨more, last, hrest, hlast⟩ := ih (expandGroup m room path memo name).2
        have hknown : (expandGroup m room path memo name).2.expanded = known := by rw [heq, GroupMemo.advance]
        rw [hknown] at hrest
        refine ⟨notes ++ more, last, .reference hid hcontent hrest, hlast.trans ?_⟩
        rw [heq, GroupMemo.advance_advance]

theorem runsAs_expandGroup (room : Nat) (path : List String) (memo : GroupMemo) (name : String) :
    RunsAs m room path memo (.group name) (expandGroup m room path memo name).1
      (expandGroup m room path memo name).2 := by
  -- The memo and the path are asked before the room, so these two cases come up with and without room.
  induction room generalizing path memo name with
  | zero =>
      unfold expandGroup
      split
      · rename_i particles hold
        exact ⟨[], memo.expanded, .remembered hold, memo.advance_nil.symm⟩
      · rename_i hnew
        have hnew := Table.get?_eq_none_iff.mp hnew
        split
        · rename_i hpath
          exact ⟨_, _, .circular hnew (by simpa using hpath),
            (memo.advance_singleton (.circular path name)).symm⟩
        · rename_i hpath
          exact ⟨_, _, .deep hnew (by simpa using hpath), (memo.advance_singleton (.deep path name)).symm⟩
  | succ room ih =>
      unfold expandGroup
      split
      · rename_i particles hold
        exact ⟨[], memo.expanded, .remembered hold, memo.advance_nil.symm⟩
      · rename_i hnew
        have hnew := Table.get?_eq_none_iff.mp hnew
        split
        · rename_i hpath
          exact ⟨_, _, .circular hnew (by simpa using hpath),
            (memo.advance_singleton (.circular path name)).symm⟩
        · rename_i hpath
          have hpath : name ∉ path := by simpa using hpath
          dsimp only
          split
          · rename_i hnone
            exact ⟨_, _, .unknown hnew hpath (Table.get?_eq_none_iff.mp hnone),
              (memo.advance_singleton (.unknown name)).symm⟩
          · rename_i id hid
            obtain ⟨notes, known, hbody, heq⟩ :=
              runsAs_spliceParticles_of m (ih (path ++ [name])) memo (m.children id)
            refine ⟨notes, _, .defined hnew hpath hid hbody, ?_⟩
            rw [heq]
            rfl

theorem runsAs_spliceParticles (room : Nat) (path : List String) (memo : GroupMemo) (ids : List NodeId) :
    RunsAs m room path memo (.particles ids) (some (spliceParticles m (expandGroup m room path) memo ids).1)
      (spliceParticles m (expandGroup m room path) memo ids).2 :=
  runsAs_spliceParticles_of m (runsAs_expandGroup m room path) memo ids

end

/-! ### The way into an expansion -/

/-- The groups that a task asks for by name. -/
def GroupTask.Needs (m : Model) : GroupTask → String → Prop
  | group name, x => x = name
  | particles ids, x => ∃ id ∈ ids, (m.node id).referencedGroup? = some x

theorem GroupTask.Needs.cons {m : Model} {rest : List NodeId} {x : String}
    (h : (GroupTask.particles rest).Needs m x) (id : NodeId) : (GroupTask.particles (id :: rest)).Needs m x := by
  obtain ⟨child, hchild, hx⟩ := h
  exact ⟨child, List.mem_cons_of_mem id hchild, hx⟩

theorem GroupTask.needs_head {m : Model} {id : NodeId} {name : String}
    (hid : (m.node id).referencedGroup? = some name) (rest : List NodeId) :
    (GroupTask.particles (id :: rest)).Needs m name :=
  ⟨id, List.mem_cons_self, hid⟩

/-- The path to a task goes from group to group by references, to each group once. The room is what the depth
leaves. -/
structure Entered (m : Model) (room : Nat) (path : List String) (task : GroupTask) : Prop where
  depth : path.length + room = maxGroupDepth
  nodup : path.Nodup
  refers : ∀ name, task.Needs m name → (path ++ [name]).IsChain (Refers m)
  named : ∀ name, task.Needs m name → IsGroupName m name

theorem entered_nil {m : Model} {task : GroupTask} (hnamed : ∀ name, task.Needs m name → IsGroupName m name) :
    Entered m maxGroupDepth [] task where
  depth := by simp
  nodup := List.nodup_nil
  refers := fun name _ => List.isChain_singleton name
  named := hnamed

namespace Entered

variable {m : Model} {room : Nat} {path : List String} {name : String}

theorem rest {id : NodeId} {rest : List NodeId} (h : Entered m room path (.particles (id :: rest))) :
    Entered m room path (.particles rest) where
  depth := h.depth
  nodup := h.nodup
  refers := fun x hx => h.refers x (hx.cons id)
  named := fun x hx => h.named x (hx.cons id)

theorem group {id : NodeId} {rest : List NodeId} (h : Entered m room path (.particles (id :: rest)))
    (hid : (m.node id).referencedGroup? = some name) : Entered m room path (.group name) where
  depth := h.depth
  nodup := h.nodup
  refers := by
    rintro x rfl
    exact h.refers x (GroupTask.needs_head hid rest)
  named := by
    rintro x rfl
    exact h.named x (GroupTask.needs_head hid rest)

theorem nodup_concat (h : Entered m room path (.group name)) (hpath : name ∉ path) : (path ++ [name]).Nodup :=
  List.nodup_append.mpr ⟨h.nodup, by simp, fun a ha b hb heq => hpath (by simp_all)⟩

/-- The particles of a group are entered by way of that group. -/
theorem body {id : NodeId} (h : Entered m (room + 1) path (.group name)) (hpath : name ∉ path)
    (hid : m.symbols.elementGroups.get? name = some id) :
    Entered m room (path ++ [name]) (.particles (m.children id)) where
  depth := by
    have hdepth := h.depth
    rw [List.length_append, List.length_singleton]
    omega
  nodup := h.nodup_concat hpath
  refers := by
    intro target htarget
    refine (h.refers name rfl).append (List.isChain_singleton target) ?_
    intro x hx y hy
    rw [List.getLast?_append, List.getLast?_singleton, Option.some_or, Option.mem_some_iff] at hx
    rw [List.head?_singleton, Option.mem_some_iff] at hy
    subst hx hy
    exact ⟨id, hid, htarget⟩
  named := by
    rintro target ⟨child, -, htarget⟩
    exact Or.inr ⟨child, htarget⟩

/-- A group that is already on the path is on a cycle. -/
theorem onCycle (h : Entered m room path (.group name)) (hpath : name ∈ path) : OnCycle m name :=
  transGen_of_isChain (h.refers name rfl) hpath

/-- Where no path of references is too long, there is room for each declared group. -/
theorem room_ne_zero (h : Entered m room path (.group name)) (hfit : FitsDepth m) (hpath : name ∉ path)
    (hname : IsDeclared m name) : room ≠ 0 := by
  rintro rfl
  have hdeclared : ∀ x ∈ path ++ [name], IsDeclared m x := by
    intro x hx
    rcases List.mem_append.mp hx with hx | hx
    · exact isDeclared_of_isChain (h.refers name rfl) hx
    · rwa [List.mem_singleton.mp hx]
  have hle := hfit (path ++ [name]) (h.nodup_concat hpath) (h.refers name rfl) hdeclared
  have hdepth := h.depth
  rw [List.length_append, List.length_singleton] at hle
  omega

end Entered

/-! ### What is known afterwards -/

namespace Expands

variable {m : Model} {room : Nat} {path : List String} {known after : Table (List NodeId)} {task : GroupTask}
  {result : Option (List NodeId)} {notes : List GroupNote}

/-- What is known is not forgotten. -/
theorem has_of_has (h : Expands m room path known task result notes after) {x : String} (hx : known.Has x) :
    after.Has x := by
  induction h with
  | remembered | circular | deep | unknown | nil => exact hx
  | defined hnew hpath hid hbody ih => exact Table.has_insert.mpr (Or.inr (ih hx))
  | particle hid hrest ih => exact ih hx
  | reference hid hgroup hrest ihgroup ihrest => exact ihrest (ihgroup hx)

/-- A group on the path does not become known inside of itself. -/
theorem not_has_of_mem (h : Expands m room path known task result notes after) {x : String} (hx : x ∈ path)
    (hnew : ¬ known.Has x) : ¬ after.Has x := by
  induction h with
  | remembered | circular | deep | unknown | nil => exact hnew
  | defined _ hpath hid hbody ih =>
      intro hhas
      rcases Table.has_insert.mp hhas with rfl | hhas
      · exact hpath hx
      · exact ih (List.mem_append_left _ hx) hnew hhas
  | particle hid hrest ih => exact ih hx hnew
  | reference hid hgroup hrest ihgroup ihrest => exact ihrest hx (ihgroup hx hnew)

/-- Only declared groups become known. -/
theorem isDeclared_of_has (h : Expands m room path known task result notes after)
    (hknown : ∀ x, known.Has x → IsDeclared m x) {x : String} (hx : after.Has x) : IsDeclared m x := by
  induction h generalizing x with
  | remembered | circular | deep | unknown | nil => exact hknown x hx
  | defined hnew hpath hid hbody ih =>
      rcases Table.has_insert.mp hx with rfl | hx
      · exact ⟨_, hid⟩
      · exact ih hknown hx
  | particle hid hrest ih => exact ih hknown hx
  | reference hid hgroup hrest ihgroup ihrest => exact ihrest (fun y hy => ihgroup hknown hy) hx

/-- A declared group is known after it has been expanded from the top. -/
theorem has_of_top {name : String} (h : Expands m maxGroupDepth [] known (.group name) result notes after)
    (hname : IsDeclared m name) : after.Has name := by
  cases h with
  | remembered hknown => exact Table.has_of_get?_eq hknown
  | circular hnew hpath => cases hpath
  | unknown hnew hpath hnone => exact absurd hname hnone
  | defined hnew hpath hid hbody => exact Table.has_insert.mpr (Or.inl rfl)

end Expands

end SchemaBinding
