import SchemaBinding.Binding.Generation
import SchemaBinding.Proofs.Table

/-!
# `SchemaBinding.Proofs.Generation.TopLevel`: which declaration a name stands for

Two declarations at the top level may share a name. `LastOfName` says that a declaration is emittable and that
none after it is emittable and has its name. `mem_topLevelTypes_iff` states that a run visits exactly these
declarations of the top level, and `get?_typesByName` that a base name is looked up among them from the end.

If the emittable declarations are `DistinctBy` name, each of them at the top level is the last of its name, and the
order of the top level has no part in what a name stands for (`DistinctBy.get?_typesByName_iff`).
-/

set_option autoImplicit false

namespace SchemaBinding

/-- The declaration `id` is emittable, and the last such one of its name at the top level. -/
def LastOfName (m : Model) (id : NodeId) : Prop :=
  (m.node id).isEmittable = true ∧ ∃ before after, m.topLevel = before ++ id :: after ∧
    ∀ x ∈ after, (m.node x).isEmittable = true → (m.node x).name ≠ (m.node id).name

theorem LastOfName.mem_topLevel {m : Model} {id : NodeId} (h : LastOfName m id) : id ∈ m.topLevel := by
  obtain ⟨-, before, after, hsplit, -⟩ := h
  rw [hsplit]
  simp

/-- A name stands for the last emittable declaration of that name. -/
theorem get?_typesByName (m : Model) (name : String) :
    (typesByName m).get? name =
      m.topLevel.reverse.find? fun id => (m.node id).isEmittable && (m.node id).name == name := by
  unfold typesByName
  rw [Table.get?_ofList, ← List.map_reverse, List.find?_map, ← List.filter_reverse, List.find?_filter,
    Option.map_map]
  have hid : (Prod.snd ∘ fun id : NodeId => ((m.node id).name, id)) = id := rfl
  rw [hid, Option.map_id]
  simp only [Bool.decide_and, Bool.decide_eq_true]
  rfl

theorem get?_typesByName_eq_some {m : Model} {name : String} {id : NodeId}
    (h : (typesByName m).get? name = some id) : (m.node id).isEmittable = true ∧ (m.node id).name = name := by
  rw [get?_typesByName] at h
  simpa using List.find?_some h

/-- The top level has a last declaration of a name if it has an emittable one at all. -/
theorem exists_get?_typesByName {m : Model} {id : NodeId} (hid : id ∈ m.topLevel)
    (he : (m.node id).isEmittable = true) : ∃ last, (typesByName m).get? (m.node id).name = some last := by
  rw [get?_typesByName]
  refine Option.isSome_iff_exists.mp (List.find?_isSome.mpr ⟨id, List.mem_reverse.mpr hid, ?_⟩)
  simp [he]

theorem get?_typesByName_iff {m : Model} {id : NodeId} :
    (typesByName m).get? (m.node id).name = some id ↔ LastOfName m id := by
  rw [get?_typesByName, List.find?_eq_some_iff_append]
  constructor
  · rintro ⟨hid, as, bs, hsplit, has⟩
    have he : (m.node id).isEmittable = true := by simpa using hid
    refine ⟨he, bs.reverse, as.reverse, ?_, ?_⟩
    · have h := congrArg List.reverse hsplit
      simpa using h
    · intro x hx hex
      have h := has x (List.mem_reverse.mp hx)
      simpa [hex] using h
  · rintro ⟨he, before, after, hsplit, hlast⟩
    refine ⟨by simp [he], after.reverse, before.reverse, by simp [hsplit], ?_⟩
    intro x hx
    have h := hlast x (List.mem_reverse.mp hx)
    cases he' : (m.node x).isEmittable with
    | false => rfl
    | true => simpa [he'] using h he'

/-- A run visits the last emittable declaration of each name at the top level, and no other one there. -/
theorem mem_topLevelTypes_iff {m : Model} {id : NodeId} : id ∈ Run.topLevelTypes m ↔ LastOfName m id := by
  unfold Run.topLevelTypes
  rw [List.mem_filter]
  constructor
  · rintro ⟨-, h⟩
    simp only [Bool.and_eq_true, decide_eq_true_eq] at h
    exact get?_typesByName_iff.mp h.2
  · intro h
    refine ⟨h.mem_topLevel, ?_⟩
    simp only [Bool.and_eq_true, decide_eq_true_eq]
    exact ⟨h.1, get?_typesByName_iff.mpr h⟩

/-! ### Distinct names -/

/-- The places of the emittable declarations of a model. -/
def emittableIds (m : Model) : List NodeId :=
  ((List.range m.nodes.size).map NodeId.mk).filter fun id => (m.node id).isEmittable

theorem mem_emittableIds {m : Model} {id : NodeId} : id ∈ emittableIds m ↔ (m.node id).isEmittable = true := by
  unfold emittableIds
  rw [List.mem_filter]
  constructor
  · exact And.right
  · intro he
    have hlt : id.index < m.nodes.size := Run.lt_size_of_isEmittable he
    exact ⟨List.mem_map.mpr ⟨id.index, List.mem_range.mpr hlt, rfl⟩, he⟩

/-- The emittable declarations differ in `key`. -/
def DistinctBy (m : Model) (key : Node → String) : Prop :=
  ∀ a b, (m.node a).isEmittable = true → (m.node b).isEmittable = true →
    key (m.node a) = key (m.node b) → a = b

instance (m : Model) (key : Node → String) : Decidable (DistinctBy m key) :=
  decidable_of_iff
    (∀ a ∈ emittableIds m, ∀ b ∈ emittableIds m, key (m.node a) = key (m.node b) → a = b)
    ⟨fun h a b ha hb => h a (mem_emittableIds.mpr ha) b (mem_emittableIds.mpr hb),
      fun h a ha b hb => h a b (mem_emittableIds.mp ha) (mem_emittableIds.mp hb)⟩

/-- With distinct names, every emittable declaration at the top level is the last of its name. -/
theorem DistinctBy.lastOfName_iff {m : Model} (hname : DistinctBy m Node.name) {id : NodeId} :
    LastOfName m id ↔ id ∈ m.topLevel ∧ (m.node id).isEmittable = true := by
  constructor
  · intro h
    exact ⟨h.mem_topLevel, h.1⟩
  · rintro ⟨hmem, he⟩
    obtain ⟨last, hlast⟩ := exists_get?_typesByName hmem he
    obtain ⟨hlaste, hlastname⟩ := get?_typesByName_eq_some hlast
    rw [hname last id hlaste he hlastname] at hlast
    exact get?_typesByName_iff.mp hlast

/-- With distinct names, a name stands for a declaration at the top level, wherever it is there. -/
theorem DistinctBy.get?_typesByName_iff {m : Model} (hname : DistinctBy m Node.name) {name : String}
    {id : NodeId} : (typesByName m).get? name = some id ↔
      id ∈ m.topLevel ∧ (m.node id).isEmittable = true ∧ (m.node id).name = name := by
  constructor
  · intro h
    obtain ⟨he, rfl⟩ := get?_typesByName_eq_some h
    exact ⟨(hname.lastOfName_iff.mp (SchemaBinding.get?_typesByName_iff.mp h)).1, he, rfl⟩
  · rintro ⟨hmem, he, rfl⟩
    exact SchemaBinding.get?_typesByName_iff.mpr (hname.lastOfName_iff.mpr ⟨hmem, he⟩)

end SchemaBinding
