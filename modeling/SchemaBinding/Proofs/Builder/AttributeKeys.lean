import SchemaBinding.Proofs.Builder.Built
import SchemaBinding.Proofs.Table

/-!
# `SchemaBinding.Proofs.Builder.AttributeKeys`: attributes have different keys

An attribute is stored under its name, where it takes the place of one of that name. So no table of attributes has two
entries under one key, neither that of a node nor that of an attribute group. While a group is being read its table is in
a frame, so the invariant has a part for each of the three places (`TablesApart`). Each event keeps it
(`Builder.KeysApart.feed`), and so it holds of built models (`Model.IsBuilt.tablesApart`).
-/

set_option autoImplicit false

namespace SchemaBinding

/-- No table of attributes has two entries under one key. -/
structure TablesApart (m : Model) (frames : List Frame) : Prop where
  nodes : ∀ id, (m.node id).attributes.keys.Nodup
  groups : ∀ entry ∈ m.symbols.attributeGroups.entries, entry.2.attributes.keys.Nodup
  /-- The groups that are being read. -/
  frames : ∀ d, .attributeGroup d ∈ frames → d.attributes.keys.Nodup

namespace Builder

def KeysApart (b : Builder) : Prop := TablesApart b.model b.frames

namespace KeysApart

variable {b b' : Builder} {tag : Tag} {name : String} {attributes : Attributes} {closing : Closing}

/-! ### Parts of events -/

theorem modifyNode (h : b.KeysApart) (id : NodeId) {f : Node → Node}
    (hf : ∀ n, n.attributes.keys.Nodup → (f n).attributes.keys.Nodup) : (b.modifyNode id f).KeysApart := by
  refine ⟨fun x => ?_, h.groups, h.frames⟩
  change ((b.model.modifyNode id f).node x).attributes.keys.Nodup
  rw [Model.node_modifyNode]
  split
  · exact hf _ (h.nodes x)
  · exact h.nodes x

/-- What does not touch attributes keeps their keys. -/
theorem modifyNode_of_eq (h : b.KeysApart) (id : NodeId) {f : Node → Node} (hf : ∀ n, (f n).attributes = n.attributes) :
    (b.modifyNode id f).KeysApart :=
  h.modifyNode id fun n hn => (hf n).symm ▸ hn

theorem modifyCurrent (h : b.KeysApart) {f : Node → Node} (hf : ∀ n, (f n).attributes = n.attributes) :
    (b.modifyCurrent f).KeysApart := by
  unfold Builder.modifyCurrent
  split
  · exact h.modifyNode_of_eq _ hf
  · exact h

/-- Symbols may be changed but for the attribute groups. -/
theorem modifyModel (h : b.KeysApart) {f : Model → Model} (hnodes : (f b.model).nodes = b.model.nodes)
    (hgroups : (f b.model).symbols.attributeGroups = b.model.symbols.attributeGroups) : (b.modifyModel f).KeysApart := by
  refine ⟨fun id => ?_, ?_, h.frames⟩
  · change ((f b.model).node id).attributes.keys.Nodup
    rw [Model.node, hnodes]
    exact h.nodes id
  · change ∀ entry ∈ (f b.model).symbols.attributeGroups.entries, _
    rw [hgroups]
    exact h.groups

/-- Frames may be replaced as long as the groups among them have different keys. -/
theorem withFrames (h : b.KeysApart) {frames : List Frame}
    (hframes : ∀ d, .attributeGroup d ∈ frames → .attributeGroup d ∈ b.frames ∨ d.attributes.keys.Nodup) :
    TablesApart b.model frames :=
  ⟨h.nodes, h.groups, fun d hd => (hframes d hd).elim (h.frames d) id⟩

theorem pushFrame (h : b.KeysApart) {frame : Frame} (hframe : ∀ d, frame = .attributeGroup d → d.attributes.keys.Nodup) :
    (b.pushFrame frame).KeysApart :=
  h.withFrames fun d hd => (List.mem_cons.mp hd).elim (fun heq => .inr (hframe d heq.symm)) .inl

theorem setTopFrame (h : b.KeysApart) {frame : Frame} (hframe : ∀ d, frame = .attributeGroup d → d.attributes.keys.Nodup) :
    (b.setTopFrame frame).KeysApart :=
  h.withFrames fun d hd =>
    (List.mem_cons.mp hd).elim (fun heq => .inr (hframe d heq.symm)) fun hd => .inl (List.mem_of_mem_tail hd)

theorem pushNode (h : b.KeysApart) {n : Node} (hn : n.attributes = ∅) : (b.pushNode n).KeysApart := by
  refine ⟨fun x => ?_, h.groups, fun d hd => ?_⟩
  · change ((b.model.addNode n).node x).attributes.keys.Nodup
    rw [Model.node_addNode]
    split
    · rw [hn]
      exact List.nodup_nil
    · exact h.nodes x
  · rcases List.mem_cons.mp hd with heq | hd
    · cases heq
    · exact h.frames d hd

theorem attach (h : b.KeysApart) (id : NodeId) : (b.attach id).KeysApart := by
  unfold Builder.attach
  split
  · exact h.modifyNode_of_eq _ fun _ => rfl
  · exact h

theorem modifyAttribute? {f : AttributeDef → AttributeDef} (h : b.KeysApart) (hb : b.modifyAttribute? f = some b') :
    b'.KeysApart := by
  unfold Builder.modifyAttribute? at hb
  split at hb
  · cases hb
  · split at hb
    · cases hb
    · dsimp only at hb
      split at hb
      · split at hb
        · cases hb
          exact h.modifyNode _ fun n hn => (Table.keys_modify _ _ _).symm ▸ hn
        · cases hb
      · rename_i d hplace
        split at hb
        · cases hb
          refine h.withFrames fun d' hd' => ?_
          rcases List.mem_or_eq_of_mem_set hd' with hd' | heq
          · exact .inl hd'
          · cases heq
            exact .inr ((Table.keys_modify _ _ _).symm ▸ h.frames d (List.mem_of_getElem? hplace))
        · cases hb
      · cases hb

/-! ### Start tags -/

theorem attributes_withMixed (attributes : Attributes) (n : Node) : (withMixed attributes n).attributes = n.attributes := by
  unfold withMixed
  split <;> rfl

theorem attributes_declaredNode (b : Builder) (kind : NodeKind) (bounds : Nat × MaxOccurs) (attributes : Attributes) :
    (withOccurs bounds (b.declaredNode kind attributes)).attributes = ∅ :=
  attributes_withMixed attributes _

theorem startNode (h : b.KeysApart) {kind : NodeKind} (hb : b.startNode kind name attributes = .ok (b', closing)) :
    b'.KeysApart := by
  unfold Builder.startNode at hb
  dsimp only at hb
  split at hb
  · cases hb
  · obtain ⟨bounds, -, hb⟩ := exists_of_bind_eq_ok hb
    cases hb
    refine KeysApart.pushNode ?_ (attributes_declaredNode b kind bounds attributes)
    unfold noteSubstitution
    split
    · exact h.modifyModel rfl rfl
    · exact h

theorem startWildcard (h : b.KeysApart) (hb : b.startWildcard name attributes = .ok (b', closing)) : b'.KeysApart := by
  obtain ⟨bounds, -, hb⟩ := exists_of_bind_eq_ok hb
  cases hb
  exact h.pushNode rfl

theorem startGroup (h : b.KeysApart) (hb : b.startGroup name attributes = .ok (b', closing)) : b'.KeysApart := by
  unfold Builder.startGroup at hb
  split at hb
  · split at hb
    · cases hb
    · cases hb
      exact h.pushNode rfl
  · obtain ⟨bounds, -, hb⟩ := exists_of_bind_eq_ok hb
    cases hb
    exact h.pushNode rfl
  · cases hb
    exact h.pushNode rfl

/-- An attribute is stored under its name. -/
theorem startAttribute (h : b.KeysApart) (hb : b.startAttribute name attributes = .ok (b', closing)) : b'.KeysApart := by
  unfold Builder.startAttribute at hb
  dsimp only at hb
  split at hb
  · cases hb
    exact h.modifyNode _ fun n hn => Table.nodup_keys_insert hn _ _
  · rename_i g rest hframes
    cases hb
    refine h.setTopFrame fun d hd => ?_
    cases hd
    exact Table.nodup_keys_insert (h.frames g (hframes ▸ List.mem_cons_self)) _ _
  · cases hb

theorem startAttributeGroup (h : b.KeysApart) (hb : b.startAttributeGroup name attributes = .ok (b', closing)) :
    b'.KeysApart := by
  unfold Builder.startAttributeGroup at hb
  split at hb
  · cases hb
    refine h.pushFrame fun d hd => ?_
    cases hd
    exact List.nodup_nil
  · split at hb
    · cases hb
    · cases hb
      exact h
  · split at hb
    · rename_i g rest hframes
      cases hb
      refine h.setTopFrame fun d hd => ?_
      cases hd
      exact h.frames g (hframes ▸ List.mem_cons_self)
    · cases hb
      exact h.modifyCurrent fun _ => rfl

theorem startSimpleType (h : b.KeysApart) (hb : b.startSimpleType name attributes = .ok (b', closing)) : b'.KeysApart := by
  unfold Builder.startSimpleType at hb
  extract_lets insideSimpleType insideAttributeGroup owner at hb
  split at hb
  · cases hb
    exact h
  · split at hb
    · cases hb
      refine KeysApart.pushFrame ?_ fun d hd => ?_
      · exact h.modifyCurrent fun _ => rfl
      · cases hd
    · split at hb
      · cases hb
        exact h
      · cases hb

theorem extendCurrent (h : b.KeysApart) (base : String) : (b.extendCurrent base).KeysApart := by
  unfold Builder.extendCurrent
  split <;> exact h.modifyCurrent fun _ => rfl

/-- A simple type on top of the frames has no attributes. -/
theorem setTopSimpleType (h : b.KeysApart) (d : SimpleTypeDef) : (b.setTopFrame (.simpleType d)).KeysApart :=
  h.setTopFrame fun _ hd => by cases hd

theorem startRestriction (h : b.KeysApart) : (b.startRestriction attributes).KeysApart := by
  unfold Builder.startRestriction restrict
  split
  · split
    · cases hchanged : b.modifyAttribute? _ with
      | none => exact h
      | some changed => exact h.modifyAttribute? hchanged
    · split
      · exact h.setTopSimpleType _
      · split
        · exact h.extendCurrent _
        · exact h.modifyCurrent fun _ => rfl
  · exact h

theorem startWhiteSpace (h : b.KeysApart) (value : String) : (b.startWhiteSpace value).KeysApart := by
  unfold Builder.startWhiteSpace
  split
  · split
    · exact h.setTopSimpleType _
    · exact h.modifyNode_of_eq _ fun _ => rfl
    · exact h
  · exact h

theorem modifyFacets? (h : b.KeysApart) {f : Facets → Facets} (hb : b.modifyFacets? f = some b') : b'.KeysApart := by
  unfold Builder.modifyFacets? at hb
  split at hb
  · exact h.modifyAttribute? hb
  · split at hb
    · cases hb
      exact h.setTopSimpleType _
    · obtain ⟨id, -, rfl⟩ := Option.map_eq_some_iff.mp hb
      exact h.modifyNode_of_eq _ fun _ => rfl

theorem startFacet (h : b.KeysApart) (hb : b.startFacet tag name attributes = .ok b') : b'.KeysApart := by
  unfold Builder.startFacet at hb
  split at hb
  · cases hb
    exact h
  · split at hb
    · cases hb
      exact h.startWhiteSpace _
    · split at hb
      · rename_i changed hchanged
        cases hb
        exact h.modifyFacets? hchanged
      · cases hb

theorem startConstruct (h : b.KeysApart) (hb : b.startConstruct tag name attributes = .ok (b', closing)) :
    b'.KeysApart := by
  have hfacet : (b.startFacet tag name attributes).map (·, Closing.nothing) = .ok (b', closing) → b'.KeysApart := by
    intro hb
    obtain ⟨changed, hstart, heq⟩ := exists_of_map_eq_ok hb
    cases heq
    exact h.startFacet hstart
  unfold Builder.startConstruct at hb
  cases tag with
  | schema => cases hb
  | element => exact h.startNode hb
  | complexType =>
      dsimp only at hb
      split at hb
      · exact h.startNode hb
      · cases hb
        refine h.modifyCurrent fun n => ?_
        dsimp only
        split <;> exact attributes_withMixed attributes n
  | any => exact h.startWildcard hb
  | group => exact h.startGroup hb
  | sequence | all | complexContent | other | choice =>
      cases hb
      exact h
  | «attribute» => exact h.startAttribute hb
  | attributeGroup => exact h.startAttributeGroup hb
  | anyAttribute | simpleContent =>
      cases hb
      exact h.modifyCurrent fun _ => rfl
  | extension =>
      cases hb
      unfold startExtension
      split
      · exact h.extendCurrent _
      · exact h
  | simpleType => exact h.startSimpleType hb
  | restriction =>
      cases hb
      exact h.startRestriction
  | enumeration | minInclusive | maxInclusive | whiteSpace => exact hfacet hb
  | union =>
      cases hb
      unfold startUnion
      split
      · exact h.setTopSimpleType _
      · exact h
  | list =>
      cases hb
      unfold startList
      split
      · split
        · exact h.setTopSimpleType _
        · exact h
      · exact h
  | annotated =>
      cases hb
      exact h
  | documentation =>
      dsimp only at hb
      split at hb <;> cases hb <;> exact h

/-! ### Events -/

theorem text (h : b.KeysApart) (content : String) : (b.text content).KeysApart := by
  unfold Builder.text
  split
  · exact h
  · split
    · exact h.setTopSimpleType _
    · exact h.modifyCurrent fun _ => rfl

theorem popNode (h : b.KeysApart) {popped : Builder} {id : NodeId} (hb : b.popNode name = .ok (popped, id)) :
    popped.KeysApart := by
  unfold Builder.popNode at hb
  split at hb
  · rename_i id rest hframes
    cases hb
    exact h.withFrames fun d hd => .inl (hframes ▸ List.mem_cons_of_mem _ hd)
  · cases hb

theorem close (h : b.KeysApart) (hb : b.close name closing = .ok b') : b'.KeysApart := by
  unfold Builder.close at hb
  cases closing with
  | nothing | closeChoice | leaveAttribute | leaveRestriction | leaveSimpleContent | leaveAnnotated |
    leaveDocumentation =>
      cases hb
      exact h
  | closeSchema =>
      cases hb
      exact h.withFrames fun d hd => .inl (List.mem_of_mem_tail hd)
  | popNode =>
      obtain ⟨⟨popped, id⟩, hpop, rfl⟩ := exists_of_map_eq_ok hb
      exact (h.popNode hpop).attach id
  | popGroup role =>
      obtain ⟨⟨popped, id⟩, hpop, rfl⟩ := exists_of_map_eq_ok hb
      have hpopped : popped.KeysApart := h.popNode hpop
      cases role with
      | definition => exact hpopped.modifyModel rfl rfl
      | ignored => exact hpopped
      | reference => exact hpopped.attach id
  | popSimpleType =>
      dsimp only at hb
      split at hb
      · rename_i d rest hframes
        cases hb
        have hpopped : KeysApart { b with frames := rest } :=
          h.withFrames fun d' hd' => .inl (hframes ▸ List.mem_cons_of_mem _ hd')
        exact hpopped.modifyModel rfl rfl
      · cases hb
  | popAttributeGroup =>
      dsimp only at hb
      split at hb
      · rename_i d rest hframes
        cases hb
        refine ⟨h.nodes, ?_, fun d' hd' => h.frames d' (hframes ▸ List.mem_cons_of_mem _ hd')⟩
        exact Table.forall_mem_entries_insert h.groups (h.frames d (hframes ▸ List.mem_cons_self))
      · cases hb

theorem feed {e : Event} (h : b.KeysApart) (hb : b.feed e = .ok b') : b'.KeysApart := by
  cases e with
  | text content =>
      cases hb
      exact h.text content
  | startTag name attributes =>
      have hb : b.startTag name attributes = .ok b' := hb
      unfold startTag at hb
      split at hb
      · unfold startRoot at hb
        dsimp only at hb
        split at hb
        · cases hb
          refine ⟨h.nodes, h.groups, fun d hd => ?_⟩
          rcases List.mem_cons.mp hd with heq | hd
          · cases heq
          · exact h.frames d hd
        · cases hb
      · split at hb
        · cases hb
        · obtain ⟨⟨opened, closing⟩, hstart, rfl⟩ := exists_of_map_eq_ok hb
          have hopened : opened.KeysApart := h.startConstruct hstart
          exact hopened
  | endTag name =>
      have hb : b.endTag name = .ok b' := hb
      unfold endTag at hb
      split at hb
      · cases hb
      · rename_i tag rest hopen
        split at hb
        · exact KeysApart.close (b := { b with openTags := rest }) h hb
        · cases hb

theorem feedAll {events : List Event} (h : b.KeysApart) (hb : b.feedAll events = .ok b') : b'.KeysApart := by
  induction events generalizing b with
  | nil =>
      cases hb
      exact h
  | cons e events ih =>
      obtain ⟨after, hfirst, hrest⟩ := exists_of_bind_eq_ok hb
      exact ih (h.feed hfirst) hrest

end KeysApart

theorem keysApart_start (prefixOverride : Option String) : (start prefixOverride).KeysApart := by
  refine ⟨fun id => ?_, fun entry hentry => absurd hentry List.not_mem_nil, fun d hd => absurd hd List.not_mem_nil⟩
  change (Model.empty.node id).attributes.keys.Nodup
  by_cases hid : id = Model.root
  · rw [hid]
    exact List.nodup_nil
  · have hnone : ¬ Model.empty.Holds id := fun hheld => hid (congrArg NodeId.mk (Nat.lt_one_iff.mp hheld))
    rw [Model.node_of_not_holds hnone]
    exact List.nodup_nil

end Builder

/-- The attributes of each node of a built model have different keys, and so have those of each attribute group. -/
theorem Model.IsBuilt.tablesApart {m : Model} (h : m.IsBuilt) : TablesApart m [] := by
  obtain ⟨prefixOverride, events, hread⟩ := h
  obtain ⟨b, hfeed, hfinish⟩ := exists_of_ofEvents hread
  obtain ⟨rfl, -, -⟩ := Builder.eq_of_finish hfinish
  exact ((Builder.keysApart_start prefixOverride).feedAll hfeed).withFrames fun _ hd => absurd hd List.not_mem_nil

end SchemaBinding
