import SchemaBinding.Proofs.Groups.Safety
import SchemaBinding.Proofs.Resolve.Placed

/-!
# `SchemaBinding.Proofs.Resolve.Particles`: what stands inside of a declaration

Below the root, the children of a resolved node are elements, wildcards and references to groups that are left
(`Model.IsBuilt.isParticle_resolve`). A schema and the definition of a group are nobody's child, and a complex type that has a
node of its own stands at the top level.

A reference is left for one of three reasons (`IsLeft`), and these are what the notes of the expansion are about: its
group has no definition, or is on a cycle, or stands at the end of a path that is as long as paths may get.
-/

set_option autoImplicit false

namespace SchemaBinding

/-- References to the group may be left where they are. -/
def IsLeft (m : Model) (name : String) : Prop :=
  ¬ IsDeclared m name ∨ OnCycle m name ∨
    ∃ path : List String, path.length = maxGroupDepth ∧ (path ++ [name]).IsChain (Refers m)

/-- What may stand inside of a declaration when references to groups are replaced. -/
def IsParticle (m : Model) (n : Node) : Prop :=
  n.kind = .element ∨ n.kind = .wildcard ∨ n.kind = .groupRef ∧ IsLeft m n.name

/-- A note gives a reason why the reference is left. -/
theorem GroupNote.Valid.isLeft {m : Model} {note : GroupNote} (h : note.Valid m) : IsLeft m note.name := by
  cases note with
  | circular path name => exact Or.inr (Or.inl h.onCycle)
  | deep path name => exact Or.inr (Or.inr ⟨path, h⟩)
  | unknown name => exact Or.inl h.2

theorem Node.referencedGroup?_eq_some {n : Node} {name : String} :
    n.referencedGroup? = some name ↔ n.kind = .groupRef ∧ n.groupRef = some name := by
  unfold referencedGroup?
  split <;> simp_all

namespace Model

variable {m : Model} {id child : NodeId}

/-- A reference that is left below the root has a reason to be. -/
theorem IsBuilt.isLeft_of_child (h : m.IsBuilt) (hreaches : (Stage.flat m).Reaches root id)
    (hchild : child ∈ (Stage.flat m).children id) {name : String}
    (hname : (m.node child).referencedGroup? = some name) :
    (m.node child).kind = .groupRef ∧ IsLeft m (m.node child).name := by
  obtain ⟨notes, known, strays, hflat⟩ := exists_flattened m
  obtain ⟨hkind, hgroup⟩ := Node.referencedGroup?_eq_some.mp hname
  obtain rfl : (m.node child).name = name := Option.some.inj ((h.groupRef_eq hkind).symm.trans hgroup)
  obtain ⟨note, hnote, hsame⟩ := hflat.noted hreaches hchild hname
  exact ⟨hkind, hsame ▸ (hflat.valid hnote).isLeft⟩

/-- What stands inside of a node is a particle, once references to groups are replaced. -/
theorem IsBuilt.isParticle_of_child (h : m.IsBuilt) (hreaches : (Stage.flat m).Reaches root id) (hroot : id ≠ root)
    (hchild : child ∈ (Stage.flat m).children id) : IsParticle m (m.node child) := by
  cases hname : (m.node child).referencedGroup? with
  | some name => exact Or.inr (Or.inr (h.isLeft_of_child hreaches hchild hname))
  | none =>
      obtain ⟨frames, hforest⟩ := h.forest
      obtain ⟨notes, known, strays, hflat⟩ := exists_flattened m
      -- The child was some node's child from the start.
      obtain ⟨owner, howner⟩ : ∃ owner, child ∈ m.children owner := by
        rcases hflat.exists_child hreaches hchild hname with hchild | ⟨-, definition, -, hchild⟩
        · exact ⟨id, hchild⟩
        · exact ⟨definition, hchild⟩
      have hheld : m.Holds child := (hforest.later owner child howner).2
      obtain ⟨hschema, hgroup⟩ : (m.node child).kind ≠ .schema ∧ (m.node child).kind ≠ .group :=
        hforest.kind owner child howner
      have hcomplex : (m.node child).kind ≠ .complexType := by
        intro hkind
        have hne : child ≠ root := by
          rintro rfl
          exact hschema h.kind_root
        exact hroot (h.eq_root_of_child hreaches hchild hname ((h.isNew hheld hne).isTopLevel hkind))
      have hreference : (m.node child).kind ≠ .groupRef := by
        intro hkind
        exact absurd (Node.referencedGroup?_eq_some.mpr ⟨hkind, h.groupRef_eq hkind⟩) (by simp [hname])
      unfold IsParticle
      cases hkind : (m.node child).kind <;> simp_all

/-- The same for the resolved model, which has the children that are there when references are replaced. -/
theorem IsBuilt.isParticle_resolve (h : m.IsBuilt) (names : NameTable)
    (hreaches : (resolve names m).model.Reaches root id) (hroot : id ≠ root)
    (hchild : child ∈ (resolve names m).model.children id) :
    IsParticle m ((resolve names m).model.node child) := by
  have htree : ∀ id, (resolve names m).model.children id = (Stage.flat m).children id := fun id =>
    ((keeps_tree names m).of_view Prod.snd).node id
  have hflat : (Stage.flat m).Reaches root id := by simpa only [Reaches, htree] using hreaches
  have hwritten := (keeps_written names m).node child
  have hkind := congrArg Node.kind hwritten
  have hname := congrArg Node.name hwritten
  simp only [Node.written] at hkind hname
  rw [IsParticle, hkind, hname]
  exact h.isParticle_of_child hflat hroot (htree id ▸ hchild)

end Model

end SchemaBinding
