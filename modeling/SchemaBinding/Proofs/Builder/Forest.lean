import Mathlib.Data.List.Nodup
import SchemaBinding.Proofs.Builder.Document
import SchemaBinding.Proofs.Table

/-!
# `SchemaBinding.Proofs.Builder.Forest`: built models are forests

A node gets its place when its start tag is read, and its parent when its end tag is read. In between it stands on the
frames, and is nobody's child. So the nodes that are numbered while a node is open are those below it, and
`Tree.Forest` says what follows from this while a schema is read: children come after their parents, each node is a
child at most once, and everything that hangs below a node so far comes before the nodes inside of it that are open.

Of a built model this leaves the shape of a forest (`Model.IsForest`, `Model.IsBuilt.isForest`): all places that are
stored hold nodes, and the preorder from the root lists the nodes in the order of their numbers.
-/

set_option autoImplicit false

namespace SchemaBinding

namespace Tree

/-- The way from one node to another by children, of any length. -/
abbrev Reaches (t : Tree) : NodeId → NodeId → Prop :=
  Relation.ReflTransGen fun owner child => child ∈ t.children owner

/-- The nodes that have been read so far, with the children that are complete. -/
structure Forest (t : Tree) : Prop where
  later : ∀ p, ∀ c ∈ t.children p, p.index < c.index ∧ c.index < t.size
  kind : ∀ p, ∀ c ∈ t.children p, (t.bare c).kind ≠ .schema ∧ (t.bare c).kind ≠ .group
  single : ∀ p q c, c ∈ t.children p → c ∈ t.children q → p = q
  /-- What hangs below a child comes before the next children. -/
  ordered : ∀ p, (t.children p).Pairwise fun c d => ∀ x, t.Reaches c x → x.index < d.index
  topLevel : ∀ p, ∀ c ∈ t.children p, (t.bare c).isTopLevel = true → p = Model.root
  groups : ∀ entry ∈ t.groups.entries,
    entry.2.index < t.size ∧ (t.bare entry.2).kind = .group ∧ (t.bare entry.2).name = entry.1
  /-- An open node is nobody's child. -/
  free : ∀ id, .node id ∈ t.frames → id.index < t.size ∧ ∀ p, id ∉ t.children p
  /-- What hangs below an open node comes before the open nodes inside of it. -/
  stacked : t.frames.Pairwise fun inner outer =>
    ∀ d p, inner = .node d → outer = .node p → ∀ x, t.Reaches p x → x.index < d.index
  placed : ∀ front id rest, t.frames = front ++ .node id :: rest → (t.bare id).isTopLevel = true →
    rest = [.node Model.root]

variable {t : Tree}

/-- A node that is nobody's child is only reached from itself. -/
theorem eq_of_reaches_free {a p : NodeId} (hfree : ∀ q, p ∉ t.children q) (h : t.Reaches a p) : a = p := by
  rcases Relation.ReflTransGen.cases_tail h with heq | ⟨q, -, hchild⟩
  · exact heq.symm
  · exact absurd hchild (hfree q)

namespace Forest

theorem lt_size_of_reaches (h : t.Forest) {a x : NodeId} (ha : a.index < t.size) (hreach : t.Reaches a x) :
    x.index < t.size := by
  rcases Relation.ReflTransGen.cases_tail hreach with rfl | ⟨q, -, hchild⟩
  · exact ha
  · exact (h.later q x hchild).2

/-! ### Frames that come and go -/

/-- A frame that is no node can be put on top. -/
theorem pushFrame (h : t.Forest) {shape : FrameShape} (hshape : ∀ id, shape ≠ .node id) :
    (t.pushFrame shape).Forest where
  later := h.later
  kind := h.kind
  single := h.single
  ordered := h.ordered
  topLevel := h.topLevel
  groups := h.groups
  free id hid := by
    rcases List.mem_cons.mp hid with heq | hid
    · exact absurd heq.symm (hshape id)
    · exact h.free id hid
  stacked := List.pairwise_cons.mpr ⟨fun _ _ d _ heq => absurd heq (hshape d), h.stacked⟩
  placed front id rest hframes htop := by
    cases front with
    | nil => exact absurd (List.cons_eq_cons.mp hframes).1 (hshape id)
    | cons f front => exact h.placed front id rest (List.cons_eq_cons.mp hframes).2 htop

/-- The frame on top can be taken off. -/
theorem drop (h : t.Forest) {f : FrameShape} {rest : List FrameShape} (hframes : t.frames = f :: rest) :
    { t with frames := rest }.Forest where
  later := h.later
  kind := h.kind
  single := h.single
  ordered := h.ordered
  topLevel := h.topLevel
  groups := h.groups
  free id hid := h.free id (by rw [hframes]; exact List.mem_cons_of_mem _ hid)
  stacked := (List.pairwise_cons.mp (hframes ▸ h.stacked)).2
  placed front id others heq htop := h.placed (f :: front) id others (by rw [hframes]; exact congrArg _ heq) htop

/-- The nodes that are there stay as they are. -/
theorem bare_pushNode {n : Node} {id : NodeId} (hid : id.index < t.size) : (t.pushNode n).bare id = t.bare id := by
  refine if_neg ?_
  rintro rfl
  exact Nat.lt_irrefl _ hid

/-- A new node comes after all others. -/
theorem pushNode (h : t.Forest) {n : Node} (htop : n.isTopLevel = true → t.frames = [.node Model.root]) :
    (t.pushNode n).Forest where
  later p c hc := ⟨(h.later p c hc).1, Nat.lt_succ_of_lt (h.later p c hc).2⟩
  kind p c hc := by
    rw [bare_pushNode (h.later p c hc).2]
    exact h.kind p c hc
  single := h.single
  ordered := h.ordered
  topLevel p c hc := by
    rw [bare_pushNode (h.later p c hc).2]
    exact h.topLevel p c hc
  groups entry hentry := by
    obtain ⟨hheld, hentry⟩ := h.groups entry hentry
    rw [bare_pushNode hheld]
    exact ⟨Nat.lt_succ_of_lt hheld, hentry⟩
  free id hid := by
    rcases List.mem_cons.mp hid with heq | hid
    · cases heq
      exact ⟨Nat.lt_succ_self _, fun p hp => Nat.lt_irrefl _ (h.later p _ hp).2⟩
    · exact ⟨Nat.lt_succ_of_lt (h.free id hid).1, (h.free id hid).2⟩
  stacked := by
    refine List.pairwise_cons.mpr ⟨?_, h.stacked⟩
    rintro _ hmem _ p ⟨⟩ rfl x hreach
    exact h.lt_size_of_reaches (h.free p hmem).1 hreach
  placed front id rest hframes hid := by
    cases front with
    | nil =>
        obtain ⟨hnode, rfl⟩ := List.cons_eq_cons.mp hframes
        cases hnode
        have hnew : (t.pushNode n).bare ⟨t.size⟩ = n.bare := if_pos rfl
        rw [hnew] at hid
        exact htop hid
    | cons f front =>
        obtain ⟨-, hframes⟩ := List.cons_eq_cons.mp hframes
        have hmem : FrameShape.node id ∈ t.frames := by rw [hframes]; simp
        rw [bare_pushNode (h.free id hmem).1] at hid
        exact h.placed front id rest hframes hid

/-- The frame of the root comes first. -/
theorem pushRoot (h : t.Forest) (hframes : t.frames = []) (hsize : 0 < t.size)
    (hroot : (t.bare Model.root).isTopLevel = false) : (t.pushFrame (.node Model.root)).Forest := by
  refine { h with free := fun id hid => ?_, stacked := ?_, placed := fun front id rest heq htop => ?_ }
  · obtain hroot | hid := List.mem_cons.mp hid
    · cases hroot
      exact ⟨hsize, fun p hp => Nat.not_lt_zero _ (h.later p _ hp).1⟩
    · exact h.free id hid
  · rw [Tree.pushFrame, hframes]
    exact List.pairwise_singleton ..
  · rw [Tree.pushFrame, hframes] at heq
    cases front with
    | nil =>
        obtain ⟨hid, -⟩ := List.cons_eq_cons.mp heq
        cases hid
        cases hroot.symm.trans htop
    | cons f front => simp at heq

/-- The definition of a group can be registered. -/
theorem define (h : t.Forest) {id : NodeId} (hheld : id.index < t.size) (hkind : (t.bare id).kind = .group) :
    (t.define id).Forest :=
  { h with groups := Table.forall_mem_entries_insert h.groups ⟨hheld, hkind, rfl⟩ }

/-! ### Nodes that are hung below others -/

section attach

variable {id p : NodeId} {rest : List FrameShape}

theorem mem_children_attach (h : t.Forest) (hframes : t.frames = .node id :: .node p :: rest) (x c : NodeId) :
    c ∈ ({ t with frames := .node p :: rest }.attach id).children x ↔ c ∈ t.children x ∨ x = p ∧ c = id := by
  have hp : p.index < t.size := (h.free p (by simp [hframes])).1
  change c ∈ (if x = p ∧ p.index < t.size then t.children x ++ [id] else t.children x) ↔ _
  by_cases hx : x = p
  · simp [hx, hp]
  · simp [hx]

/-- What a new child is reached from reaches its parent, and all that is reached newly hangs below the child. -/
theorem reaches_attach (h : t.Forest) (hframes : t.frames = .node id :: .node p :: rest) {a x : NodeId}
    (hreach : ({ t with frames := .node p :: rest }.attach id).Reaches a x) :
    t.Reaches a x ∨ t.Reaches a p ∧ t.Reaches id x := by
  induction hreach with
  | refl => exact .inl .refl
  | tail _ hchild ih =>
      rcases (h.mem_children_attach hframes _ _).mp hchild with hchild | ⟨rfl, rfl⟩
      · exact ih.imp (·.tail hchild) (And.imp_right (·.tail hchild))
      · exact .inr ⟨ih.elim (fun h => h) And.left, .refl⟩

/-- From anywhere but the parent, nothing new is reached. -/
theorem reaches_of_ne_parent (h : t.Forest) (hframes : t.frames = .node id :: .node p :: rest) {a x : NodeId}
    (hne : a ≠ p) (hreach : ({ t with frames := .node p :: rest }.attach id).Reaches a x) : t.Reaches a x := by
  obtain ⟨-, hfree⟩ := h.free p (by simp [hframes])
  rcases h.reaches_attach hframes hreach with hold | ⟨hparent, -⟩
  · exact hold
  · exact absurd (eq_of_reaches_free hfree hparent) hne

/-- The new child comes after all that hangs below its parent so far. -/
theorem ordered_attach (h : t.Forest) (hframes : t.frames = .node id :: .node p :: rest) (q : NodeId) :
    (({ t with frames := .node p :: rest }.attach id).children q).Pairwise fun c d =>
      ∀ x, ({ t with frames := .node p :: rest }.attach id).Reaches c x → x.index < d.index := by
  obtain ⟨-, hfree⟩ := h.free p (by simp [hframes])
  obtain ⟨habove, -⟩ := List.pairwise_cons.mp (hframes ▸ h.stacked)
  -- No child is the parent, so below the children that are there nothing changes.
  have hsame : ∀ c x, c ∈ t.children q → ({ t with frames := .node p :: rest }.attach id).Reaches c x →
      t.Reaches c x := by
    intro c x hc
    refine h.reaches_of_ne_parent hframes ?_
    rintro rfl
    exact hfree q hc
  have hold : (t.children q).Pairwise fun c d => ∀ x,
      ({ t with frames := .node p :: rest }.attach id).Reaches c x → x.index < d.index :=
    (h.ordered q).imp_of_mem fun hc _ hbelow x hreach => hbelow x (hsame _ x hc hreach)
  change (if q = p ∧ p.index < t.size then t.children q ++ [id] else t.children q).Pairwise _
  split
  · rename_i hq
    obtain ⟨rfl, -⟩ := hq
    refine List.pairwise_append.mpr ⟨hold, List.pairwise_singleton .., fun c hc d hd x hreach => ?_⟩
    rw [List.mem_singleton.mp hd]
    exact habove _ (List.mem_cons_self ..) id q rfl rfl x (.head hc (hsame c x hc hreach))
  · exact hold

/-- Nothing changes for the open nodes around the parent, which stands on the frames once. -/
theorem stacked_attach (h : t.Forest) (hframes : t.frames = .node id :: .node p :: rest) :
    (FrameShape.node p :: rest).Pairwise fun inner outer => ∀ d q, inner = .node d → outer = .node q →
      ∀ x, ({ t with frames := .node p :: rest }.attach id).Reaches q x → x.index < d.index := by
  obtain ⟨-, hstacked⟩ := List.pairwise_cons.mp (hframes ▸ h.stacked)
  obtain ⟨habove, hrest⟩ := List.pairwise_cons.mp hstacked
  have hsame : ∀ q x, FrameShape.node q ∈ rest →
      ({ t with frames := .node p :: rest }.attach id).Reaches q x → t.Reaches q x := by
    intro q x hq
    refine h.reaches_of_ne_parent hframes ?_
    rintro rfl
    exact Nat.lt_irrefl _ (habove _ hq q q rfl rfl q .refl)
  refine List.pairwise_cons.mpr ⟨fun f hf d q hd hq x hreach => ?_, ?_⟩
  · exact habove f hf d q hd hq x (hsame q x (hq ▸ hf) hreach)
  · refine hrest.imp_of_mem fun _ hf hbelow d q hd hq x hreach => ?_
    exact hbelow d q hd hq x (hsame q x (hq ▸ hf) hreach)

/-- A finished node can be hung below the node around it. -/
theorem attach_cons (h : t.Forest) (hframes : t.frames = .node id :: .node p :: rest)
    (hkind : (t.bare id).kind ≠ .schema ∧ (t.bare id).kind ≠ .group) :
    ({ t with frames := .node p :: rest }.attach id).Forest where
  later q c hc := by
    rcases (h.mem_children_attach hframes q c).mp hc with hc | ⟨rfl, rfl⟩
    · exact h.later q c hc
    · obtain ⟨habove, -⟩ := List.pairwise_cons.mp (hframes ▸ h.stacked)
      exact ⟨habove _ (List.mem_cons_self ..) c q rfl rfl q .refl, (h.free c (by simp [hframes])).1⟩
  kind q c hc := by
    rcases (h.mem_children_attach hframes q c).mp hc with hc | ⟨rfl, rfl⟩
    · exact h.kind q c hc
    · exact hkind
  single q q' c hc hc' := by
    obtain ⟨-, hfree⟩ := h.free id (by simp [hframes])
    rcases (h.mem_children_attach hframes q c).mp hc with hold | ⟨hq, hnew⟩ <;>
      rcases (h.mem_children_attach hframes q' c).mp hc' with hold' | ⟨hq', hnew'⟩
    · exact h.single q q' c hold hold'
    · exact absurd (hnew' ▸ hold) (hfree q)
    · exact absurd (hnew ▸ hold') (hfree q')
    · rw [hq, hq']
  ordered := h.ordered_attach hframes
  topLevel q c hc htop := by
    rcases (h.mem_children_attach hframes q c).mp hc with hc | ⟨rfl, rfl⟩
    · exact h.topLevel q c hc htop
    · -- Around a top level node there is the root alone.
      cases h.placed [] c _ hframes htop
      rfl
  groups := h.groups
  free d hd := by
    obtain ⟨habove, -⟩ := List.pairwise_cons.mp (hframes ▸ h.stacked)
    have hopen : FrameShape.node d ∈ t.frames := by
      rw [hframes]
      exact List.mem_cons_of_mem _ hd
    refine ⟨(h.free d hopen).1, fun q hq => ?_⟩
    rcases (h.mem_children_attach hframes q d).mp hq with hq | ⟨-, rfl⟩
    · exact (h.free d hopen).2 q hq
    · exact Nat.lt_irrefl _ (habove _ hd d d rfl rfl d .refl)
  stacked := h.stacked_attach hframes
  placed front d others heq := by
    refine h.placed (.node id :: front) d others ?_
    rw [hframes]
    exact congrArg _ heq

theorem attach (h : t.Forest) (hframes : t.frames = .node id :: rest)
    (hkind : (t.bare id).kind ≠ .schema ∧ (t.bare id).kind ≠ .group) :
    ({ t with frames := rest }.attach id).Forest := by
  cases rest with
  | nil => exact h.drop hframes
  | cons f rest =>
      cases f with
      | node p => exact h.attach_cons hframes hkind
      | simpleType | attributeGroup => exact h.drop hframes

end attach

end Forest

end Tree

/-! ### Reading -/

namespace Closing

theorem kind_of_takes {closing : Closing} {kind : NodeKind} (h : closing.takes kind = true)
    (hclosing : closing = .popNode ∨ closing = .popGroup .reference) : kind ≠ .schema ∧ kind ≠ .group := by
  rcases hclosing with rfl | rfl <;> cases kind <;> simp_all [takes]

end Closing

namespace Outline

variable {o o' : Outline}

theorem forest_opens (h : o.Forest) {tag : Tag} {attributes : Attributes} {closing : Closing}
    (hroot : o.frames.length = 1 → o.frames = [.node Model.root]) (hopens : o.Opens tag attributes closing o') :
    o'.Forest := by
  cases hopens with
  | skip | choice | enter => exact h
  | node _ _ _ htop => exact h.pushNode fun hn => hroot (htop hn)
  | simpleType | attributeGroup => exact h.pushFrame nofun

theorem forest_closes (h : o.Forest) {closing : Closing}
    (howned : closing.ownsFrame = true → ∀ f rest, o.frames = f :: rest → o.Owned closing f)
    (hcloses : o.Closes closing o') : o'.Forest := by
  have htakes : ∀ id rest, closing.ownsFrame = true → closing ≠ .closeSchema → o.frames = .node id :: rest →
      id.index < o.size ∧ closing.takes (o.bare id).kind = true := by
    intro id rest howns hclosing htop
    cases howned howns _ rest htop with
    | root => exact absurd rfl hclosing
    | node _ hheld hkind => exact ⟨hheld, hkind⟩
  cases hcloses with
  | nothing | choice | leave => exact h
  | root =>
      cases hframes : o.frames with
      | nil =>
          have hsame : { o.toTree with frames := [] } = o.toTree := by rw [← hframes]
          rw [← hsame] at h
          exact h
      | cons f rest => exact h.drop hframes
  | node htop => exact h.attach htop (Closing.kind_of_takes (htakes _ _ rfl nofun htop).2 (.inl rfl))
  | reference htop => exact h.attach htop (Closing.kind_of_takes (htakes _ _ rfl nofun htop).2 (.inr rfl))
  | @definition id rest htop =>
      obtain ⟨hheld, hkind⟩ := htakes _ _ rfl nofun htop
      refine (h.drop htop).define hheld ?_
      change (o.bare id).kind = .group
      cases hk : (o.bare id).kind <;> simp_all [Closing.takes]
  | ignored htop | simpleType htop | attributeGroup htop => exact h.drop htop

theorem Reads.forest {events : List Event} {o : Outline} (h : Reads events o) : o.Forest := by
  induction h with
  | start =>
      have hnone : ∀ p, (Builder.start none).outline.children p = [] := by
        rintro ⟨index⟩
        cases index <;> rfl
      have hchildren : ∀ p c, c ∉ (Builder.start none).outline.children p := fun p c hc =>
        absurd (hnone p ▸ hc) List.not_mem_nil
      exact
        { later := fun p c hc => absurd hc (hchildren p c)
          kind := fun p c hc => absurd hc (hchildren p c)
          single := fun p _ c hc => absurd hc (hchildren p c)
          ordered := fun p => by
            rw [hnone]
            exact .nil
          topLevel := fun p c hc => absurd hc (hchildren p c)
          groups := fun _ h => absurd h List.not_mem_nil
          free := fun _ h => absurd h List.not_mem_nil
          stacked := .nil
          placed := fun front id rest h => by simp [Builder.outline, Builder.start] at h }
  | @next events e o o' hbefore hnext ih =>
      obtain ⟨hdisciplined, hprogress⟩ := hbefore.disciplined
      cases hnext with
      | text => exact ih
      | root hseen hname builtins =>
          obtain ⟨-, -, hopen⟩ := hprogress.of_not_seen hseen
          obtain ⟨hsize, hroot⟩ := hbefore.populated.root
          have hframes : o.frames = [] := by
            have hmatch := hdisciplined.frames
            rw [hopen] at hmatch
            exact List.forall₂_nil_left_iff.mp hmatch
          refine ih.pushRoot hframes hsize ?_
          rw [hroot]
          rfl
      | @start _ _ _ opened hseen hclosed hopens =>
          have hopened : opened.Forest :=
            forest_opens ih (hprogress.frames_eq hseen hclosed hdisciplined.frames) hopens
          exact hopened
      | @close _ tags _ htop hcloses =>
          refine forest_closes (o := { o with openTags := tags }) ih (fun howns f rest hframes => ?_) hcloses
          exact hdisciplined.owned htop howns hframes

end Outline

/-! ### Built models -/

namespace Model

/-- Where each of some nodes comes before the others, and so does all that it reaches, the walk over them lists nodes
in the order of their places. -/
theorem pairwise_preorderLoop {m : Model} (hlater : ∀ p, ∀ c ∈ m.children p, p.index < c.index)
    (hordered : ∀ p, (m.children p).Pairwise fun c d => ∀ x, m.Reaches c x → x.index < d.index)
    (order work : List NodeId) (horder : order.Pairwise fun c d => c.index < d.index)
    (hwork : work.Pairwise fun c d => ∀ x, m.Reaches c x → x.index < d.index)
    (hbetween : ∀ c ∈ order, ∀ d ∈ work, ∀ x, m.Reaches d x → c.index < x.index) :
    (m.preorderLoop order work).Pairwise fun c d => c.index < d.index := by
  have hle : ∀ a x, m.Reaches a x → a.index ≤ x.index := by
    intro a x hreach
    induction hreach with
    | refl => exact Nat.le_refl _
    | tail _ hchild ih => exact Nat.le_trans ih (Nat.le_of_lt (hlater _ _ hchild))
  fun_induction preorderLoop m order work with
  | case1 order => exact horder
  | case2 order id rest h ih =>
      obtain ⟨hfirst, hrest⟩ := List.pairwise_cons.mp hwork
      refine ih ?_ ?_ ?_
      · refine List.pairwise_append.mpr ⟨horder, List.pairwise_singleton .., fun c hc d hd => ?_⟩
        rw [List.mem_singleton.mp hd]
        exact hbetween c hc id (List.mem_cons_self ..) id .refl
      · refine List.pairwise_append.mpr ⟨hordered id, hrest, fun c hc d hd x hreach => ?_⟩
        exact hfirst d hd x (.head hc hreach)
      · intro c hc d hd x hreach
        rcases List.mem_append.mp hc with hc | hc <;> rcases List.mem_append.mp hd with hd | hd
        · exact hbetween c hc id (List.mem_cons_self ..) x (.head hd hreach)
        · exact hbetween c hc d (List.mem_cons_of_mem _ hd) x hreach
        · rw [List.mem_singleton.mp hc]
          exact Nat.lt_of_lt_of_le (hlater id d hd) (hle d x hreach)
        · rw [List.mem_singleton.mp hc]
          exact Nat.lt_of_lt_of_le (hfirst d hd id .refl) (hle d x hreach)
  | case3 order id rest h ih =>
      exact ih horder (List.pairwise_cons.mp hwork).2 fun c hc d hd =>
        hbetween c hc d (List.mem_cons_of_mem _ hd)

/-- The nodes of a model as one forest, in the order of their numbers. -/
structure IsForest (m : Model) : Prop where
  holds_child : ∀ p, ∀ c ∈ m.children p, m.Holds c
  holds_group : ∀ entry ∈ m.symbols.elementGroups.entries, m.Holds entry.2
  /-- No node stands twice among all children. -/
  nodup : (m.nodes.toList.flatMap Node.children).Nodup
  root_not_mem : root ∉ m.nodes.toList.flatMap Node.children
  number_lt : ∀ p, ∀ c ∈ m.children p, p.number < c.number
  ascending : ∀ p, (m.children p).Pairwise fun c d => c.number < d.number
  kind : ∀ p, ∀ c ∈ m.children p, (m.node c).kind ≠ .schema ∧ (m.node c).kind ≠ .group
  group : ∀ entry ∈ m.symbols.elementGroups.entries,
    (m.node entry.2).kind = .group ∧ (m.node entry.2).name = entry.1
  preorder : m.preorder.Pairwise fun c d => c.number < d.number

theorem IsBuilt.forest {m : Model} (h : m.IsBuilt) :
    ∃ frames, Tree.Forest ⟨m.nodes.size, fun id => (m.node id).bare, m.children, m.symbols.elementGroups, frames⟩ := by
  obtain ⟨events, b, hreads, rfl, -, -⟩ := h.exists_reads
  exact ⟨_, hreads.forest⟩

theorem children_getElem {m : Model} {i : Nat} (hi : i < m.nodes.toList.length) :
    m.nodes.toList[i].children = m.children ⟨i⟩ := by
  have hlt : i < m.nodes.size := hi
  simp [Model.children, node, Array.getD_eq_getD_getElem?, hlt]

theorem exists_children_eq {m : Model} {n : Node} (hn : n ∈ m.nodes.toList) : ∃ p, n.children = m.children p := by
  obtain ⟨i, hi, rfl⟩ := List.mem_iff_getElem.mp hn
  exact ⟨⟨i⟩, children_getElem hi⟩

/-- **Every built model is a forest**, and its preorder lists the nodes in the order of their numbers. -/
theorem IsBuilt.isForest {m : Model} (h : m.IsBuilt) : m.IsForest := by
  obtain ⟨frames, hforest⟩ := h.forest
  have hlater : ∀ p, ∀ c ∈ m.children p, p.index < c.index ∧ m.Holds c := hforest.later
  have hascending : ∀ p, (m.children p).Pairwise fun c d => c.index < d.index := fun p =>
    (hforest.ordered p).imp fun hbelow => hbelow _ .refl
  exact
    { holds_child := fun p c hc => (hlater p c hc).2
      holds_group := fun entry hentry => (hforest.groups entry hentry).1
      nodup := by
        refine List.nodup_flatMap.mpr ⟨fun n hn => ?_, List.pairwise_iff_getElem.mpr fun i j hi hj hij => ?_⟩
        · obtain ⟨p, hp⟩ := exists_children_eq hn
          rw [hp]
          exact (hascending p).imp fun hlt heq => Nat.ne_of_lt hlt (congrArg NodeId.index heq)
        · -- A node with two parents would have one.
          intro c hc hc'
          rw [children_getElem] at hc hc'
          exact Nat.ne_of_lt hij (congrArg NodeId.index (hforest.single _ _ c hc hc'))
      root_not_mem := fun hroot => by
        obtain ⟨n, hn, hc⟩ := List.mem_flatMap.mp hroot
        obtain ⟨p, hp⟩ := exists_children_eq hn
        exact Nat.not_lt_zero _ (hlater p root (hp ▸ hc)).1
      number_lt := fun p c hc => Nat.succ_lt_succ (hlater p c hc).1
      ascending := fun p => (hascending p).imp Nat.succ_lt_succ
      kind := hforest.kind
      group := fun entry hentry => (hforest.groups entry hentry).2
      preorder := by
        have hpairwise := pairwise_preorderLoop (fun p c hc => (hlater p c hc).1) hforest.ordered [] [root] .nil
          (List.pairwise_singleton ..) (fun c hc => absurd hc List.not_mem_nil)
        exact hpairwise.imp Nat.succ_lt_succ }

/-- A group with one element, and a type with two elements of which the first has one of its own. -/
def groupedOrder : Model where
  nodes := #[taggedNode .schema "schema" false [⟨3⟩],
    taggedNode .group "Parts" true [⟨2⟩], taggedNode .element "part" false [],
    taggedNode .complexType "Order" true [⟨4⟩, ⟨6⟩], taggedNode .element "item" false [⟨5⟩],
    taggedNode .element "size" false [], taggedNode .element "date" false []]
  symbols := { elementGroups := .ofList [("Parts", ⟨1⟩)] }
  builtins := ⟨""⟩

theorem isForest_groupedOrder : groupedOrder.IsBuilt ∧ groupedOrder.IsForest := by
  let parts := enclosed "group" [("name", "Parts")] (enclosed "element" [("name", "part")] [])
  let item := enclosed "element" [("name", "item")] (enclosed "element" [("name", "size")] [])
  let order := enclosed "complexType" [("name", "Order")] (item ++ enclosed "element" [("name", "date")] [])
  have hread : (ofEvents none (enclosed "schema" [] (parts ++ order))).toOption = some groupedOrder := by
    decide +kernel
  have hbuilt := isBuilt_of_toOption_eq hread
  exact ⟨hbuilt, hbuilt.isForest⟩

end Model

end SchemaBinding
