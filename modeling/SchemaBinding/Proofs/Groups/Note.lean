import SchemaBinding.Proofs.Groups.Walk

/-!
# `SchemaBinding.Proofs.Groups.Note`: notes are right

Each note that flattening makes tells the truth about the references of the model (`GroupNote.Valid`). A circular
reference closes a cycle with groups on its path, a reference that nests too deep has a path of that many groups
around it, and an unknown group has no definition.
-/

set_option autoImplicit false

namespace SchemaBinding

/-- The references of the model are as the note says. -/
def GroupNote.Valid (m : Model) : GroupNote → Prop
  | circular path name => path.Nodup ∧ name ∈ path ∧ (path ++ [name]).IsChain (Refers m)
  | deep path name => path.length = maxGroupDepth ∧ (path ++ [name]).IsChain (Refers m)
  | unknown name => IsGroupName m name ∧ ¬ IsDeclared m name

variable {m : Model}

theorem Expands.valid {room : Nat} {path : List String} {known after : Table (List NodeId)} {task : GroupTask}
    {result : Option (List NodeId)} {notes : List GroupNote} (h : Expands m room path known task result notes after)
    (hentered : Entered m room path task) {note : GroupNote} (hnote : note ∈ notes) : note.Valid m := by
  induction h with
  | remembered | nil => cases hnote
  | circular hnew hpath =>
      cases List.mem_singleton.mp hnote
      exact ⟨hentered.nodup, hpath, hentered.refers _ rfl⟩
  | deep hnew hpath =>
      cases List.mem_singleton.mp hnote
      exact ⟨hentered.depth, hentered.refers _ rfl⟩
  | unknown hnew hpath hnone =>
      cases List.mem_singleton.mp hnote
      exact ⟨hentered.named _ rfl, hnone⟩
  | defined hnew hpath hid hbody ih => exact ih (hentered.body hpath hid) hnote
  | particle hid hrest ih => exact ih hentered.rest hnote
  | reference hid hgroup hrest ihgroup ihrest =>
      rcases List.mem_append.mp hnote with hnote | hnote
      · exact ihgroup (hentered.group hid) hnote
      · exact ihrest hentered.rest hnote

theorem Opening.valid {names : List String} {notes : List GroupNote} {known : Table (List NodeId)}
    (h : Opening m names notes known) {note : GroupNote} (hnote : note ∈ notes) : note.Valid m := by
  induction h with
  | start => cases hnote
  | next hbefore hdeclared hgroup ih =>
      rcases List.mem_append.mp hnote with hnote | hnote
      · exact ih hnote
      · exact hgroup.valid (entered_of_isDeclared hdeclared) hnote

theorem Flattened.valid {r : Resolved} {notes strays : List GroupNote} {known : Table (List NodeId)}
    (h : Flattened m r notes known strays) {note : GroupNote} (hnote : note ∈ notes ++ strays) : note.Valid m := by
  rcases List.mem_append.mp hnote with hnote | hnote
  · exact h.opening.valid hnote
  · obtain ⟨name, rfl, hname⟩ := h.unknown_of_stray note hnote
    exact hname

/-- A circular reference is on a cycle. -/
theorem GroupNote.Valid.onCycle {path : List String} {name : String} (h : (GroupNote.circular path name).Valid m) :
    OnCycle m name :=
  transGen_of_isChain h.2.2 h.2.1

end SchemaBinding
