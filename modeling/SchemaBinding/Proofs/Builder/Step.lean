import Mathlib.Data.List.Induction
import Mathlib.Data.List.TakeWhile
import SchemaBinding.Proofs.Builder.Outline

/-!
# `SchemaBinding.Proofs.Builder.Step`: the steps of a builder that reads

What start tags and end tags do to the outline of a builder, one lemma for each kind of tag. `next_of_feed` says that
each event which is taken in does a step of `Outline.Next`, and `reads_of_feedAll` that the events which were taken in
lead to the outline by such steps.
-/

set_option autoImplicit false

namespace SchemaBinding

/-- A computation that ends in a value comes from one before it that did. -/
theorem exists_of_bind_eq_ok {ε α β : Type} {x : Except ε α} {f : α → Except ε β} {y : β}
    (h : x >>= f = .ok y) : ∃ a, x = .ok a ∧ f a = .ok y := by
  cases x with
  | error e => cases h
  | ok a => exact ⟨a, rfl, h⟩

/-- A computation ends in a value if its two steps do. -/
theorem isOk_bind {ε α β : Type} {x : Except ε α} {f : α → Except ε β} {P Q : Prop} (hx : (∃ a, x = .ok a) ↔ P)
    (hf : ∀ a, x = .ok a → ((∃ y, f a = .ok y) ↔ Q)) : (∃ y, x >>= f = .ok y) ↔ P ∧ Q := by
  constructor
  · rintro ⟨y, h⟩
    obtain ⟨a, ha, h⟩ := exists_of_bind_eq_ok h
    exact ⟨hx.mp ⟨a, ha⟩, (hf a ha).mp ⟨y, h⟩⟩
  · rintro ⟨hp, hq⟩
    obtain ⟨a, ha⟩ := hx.mpr hp
    obtain ⟨y, hy⟩ := (hf a ha).mpr hq
    subst ha
    exact ⟨y, hy⟩

/-- The first step decides when the second one always ends in a value. -/
theorem isOk_bind_of_total {ε α β : Type} {x : Except ε α} {f : α → Except ε β} {P : Prop} (hx : (∃ a, x = .ok a) ↔ P)
    (hf : ∀ a, x = .ok a → ∃ y, f a = .ok y) : (∃ y, x >>= f = .ok y) ↔ P :=
  (isOk_bind hx fun a ha => iff_true_intro (hf a ha)).trans (and_iff_left trivial)

theorem isOk_map {ε α β : Type} {x : Except ε α} {f : α → β} : (∃ y, x.map f = .ok y) ↔ ∃ a, x = .ok a := by
  cases x <;> simp [Except.map]

theorem exists_of_map_eq_ok {ε α β : Type} {x : Except ε α} {f : α → β} {y : β} (h : x.map f = .ok y) :
    ∃ a, x = .ok a ∧ f a = y := by
  cases x with
  | error e => cases h
  | ok a => exact ⟨a, rfl, Except.ok.inj h⟩

theorem eq_ok_of_toOption_eq_some {ε α : Type} {x : Except ε α} {a : α} (h : x.toOption = some a) : x = .ok a := by
  cases x with
  | error e => cases h
  | ok a' => exact congrArg Except.ok (Option.some.inj h)

namespace Builder

variable {b b' : Builder} {closing : Closing}

/-! ### Start tags -/

theorem outline_pushNode (b : Builder) {n : Node} (hn : n.children = []) :
    (b.pushNode n).outline = { b.outline with toTree := b.outline.pushNode n } := by
  refine Outline.ext (by simp [pushNode, outline, pushFrame, modifyModel, Model.addNode, Tree.pushNode])
    (funext fun x => ?_) (funext fun x => ?_) rfl rfl rfl rfl rfl rfl rfl rfl rfl
  · change ((b.model.addNode n).node x).bare = if x = b.model.nextId then n.bare else (b.model.node x).bare
    rw [Model.node_addNode]
    split <;> rfl
  · change ((b.model.addNode n).node x).children = (b.model.node x).children
    rw [Model.node_addNode]
    split
    · rename_i hx
      subst hx
      -- The place held no node before, and so it had no children.
      have hplace : ¬ b.model.Holds b.model.nextId := Nat.lt_irrefl _
      rw [hn, Model.node_of_not_holds hplace]
      rfl
    · rfl

theorem isNew_ofKind {kind : NodeKind} (hkind : kind ≠ .schema ∧ kind ≠ .groupRef ∧ kind ≠ .complexType) (name : String) :
    (Node.ofKind kind name).IsNew where
  kind := hkind.1
  groupRef h := absurd h hkind.2.1
  isExplicitlyDefined h := by cases h
  isTopLevel h := absurd h hkind.2.2
  unresolved := ⟨rfl, rfl, rfl⟩

/-- A local name has no prefix left. -/
theorem localPart_localPart (raw : String) : localPart (localPart raw) = localPart raw := by
  have hidem := List.takeWhile_idem (p := fun c : Char => decide (c ≠ ':')) (l := raw.toList.reverse)
  have hlocal : ∀ s : String, localPart s = String.ofList (s.toList.reverse.takeWhile (· ≠ ':')).reverse := by
    intro s
    unfold localPart PrefixedName.ofString
    dsimp only
    split <;> rfl
  rw [hlocal (localPart raw), hlocal raw, String.toList_ofList, List.reverse_reverse, hidem]

theorem isNew_declaredNode (b : Builder) {kind : NodeKind}
    (hkind : kind = .element ∨ kind = .complexType ∧ b.atTopLevel = true) (bounds : Nat × MaxOccurs)
    (attributes : Attributes) : (withOccurs bounds (b.declaredNode kind attributes)).IsNew := by
  have hother : kind ≠ .schema ∧ kind ≠ .groupRef := by rcases hkind with rfl | ⟨rfl, -⟩ <;> decide
  have hdeclares : kind = .element ∨ kind = .complexType := hkind.imp id And.left
  have htop : kind = .complexType → b.atTopLevel = true := by
    rcases hkind with rfl | ⟨-, htop⟩
    · exact fun h => by cases h
    · exact fun _ => htop
  have hname : localPart (((attributes.get? "name").map localPart).getD "") =
      ((attributes.get? "name").map localPart).getD "" := by
    cases attributes.get? "name" with
    | none => rfl
    | some raw => exact localPart_localPart raw
  unfold declaredNode withMixed
  cases attributes.get? "mixed" with
  | none =>
      refine ⟨hother.1, fun h => absurd h hother.2, fun h => ⟨hdeclares, ?_⟩, htop, rfl, rfl, rfl⟩
      simp_all [withOccurs, Node.ofKind]
  | some value =>
      refine ⟨hother.1, fun h => absurd h hother.2, fun h => ⟨hdeclares, ?_⟩, htop, rfl, rfl, rfl⟩
      simp_all [withOccurs, Node.ofKind]

theorem declaredNode_fields (b : Builder) (kind : NodeKind) (bounds : Nat × MaxOccurs) (attributes : Attributes) :
    (withOccurs bounds (b.declaredNode kind attributes)).kind = kind ∧
      (withOccurs bounds (b.declaredNode kind attributes)).children = [] ∧
      (withOccurs bounds (b.declaredNode kind attributes)).isTopLevel = b.atTopLevel := by
  unfold declaredNode withMixed
  cases attributes.get? "mixed" with
  | none => exact ⟨rfl, rfl, rfl⟩
  | some value => exact ⟨rfl, rfl, rfl⟩

theorem length_frames_of_atTopLevel (h : b.atTopLevel = true) : b.outline.frames.length = 1 := by
  simpa [atTopLevel, outline] using h

variable {tag : Tag} {name : String} {attributes : Attributes}

theorem opens_startNode (htag : tag ≠ .choice) {kind : NodeKind}
    (hkind : kind = .element ∨ kind = .complexType ∧ b.atTopLevel = true)
    (h : b.startNode kind name attributes = .ok (b', closing)) :
    b.outline.Opens tag attributes closing b'.outline := by
  unfold startNode at h
  dsimp only at h
  split at h
  · cases h
  · obtain ⟨bounds, -, h⟩ := exists_of_bind_eq_ok h
    cases h
    obtain ⟨hsame, hchildren, htop⟩ := declaredNode_fields b kind bounds attributes
    rw [outline_pushNode _ hchildren, outline_noteSubstitution]
    refine .node htag ?_ (isNew_declaredNode b hkind bounds attributes) fun h =>
      length_frames_of_atTopLevel (htop ▸ h)
    rw [hsame]
    rcases hkind with rfl | ⟨rfl, -⟩ <;> rfl

theorem opens_startWildcard (htag : tag ≠ .choice) (h : b.startWildcard name attributes = .ok (b', closing)) :
    b.outline.Opens tag attributes closing b'.outline := by
  obtain ⟨bounds, -, h⟩ := exists_of_bind_eq_ok h
  cases h
  rw [outline_pushNode _ rfl]
  refine .node htag rfl ⟨?_, ?_, ?_, ?_, rfl, rfl, rfl⟩ ?_
  all_goals simp [withOccurs, Node.ofKind]

theorem opens_startGroup (htag : tag ≠ .choice) (h : b.startGroup name attributes = .ok (b', closing)) :
    b.outline.Opens tag attributes closing b'.outline := by
  unfold startGroup at h
  split at h
  · rename_i htop _
    split at h
    · cases h
    · cases h
      rw [outline_pushNode _ rfl]
      refine .node htag rfl ⟨?_, ?_, ?_, ?_, rfl, rfl, rfl⟩ fun _ => length_frames_of_atTopLevel htop
      all_goals simp [Node.ofKind]
  · obtain ⟨bounds, -, h⟩ := exists_of_bind_eq_ok h
    cases h
    rw [outline_pushNode _ rfl]
    refine .node htag rfl ⟨?_, fun _ => rfl, ?_, ?_, rfl, rfl, rfl⟩ ?_
    all_goals simp [withOccurs, Node.ofKind]
  · cases h
    rw [outline_pushNode _ rfl]
    exact .node htag rfl (isNew_ofKind (by decide) _) (by simp [Node.ofKind])

theorem opens_skip (htag : tag ≠ .choice) (h : b'.outline = b.outline) :
    b.outline.Opens tag attributes .nothing b'.outline := by
  rw [h]
  exact .skip htag

/-- A tag may change what is filled in, and make a depth one greater after that. -/
theorem opens_enter (b₀ : Builder) (htag : tag ≠ .choice) (hleave : closing.isLeave = true)
    (h₀ : b₀.outline = b.outline) (h₁ : b'.outline = { b₀.outline with depth := b'.depth })
    (hdepth : ∀ c, b'.depth c = if c = closing then b.depth c + 1 else b₀.depth c) :
    b.outline.Opens tag attributes closing b'.outline := by
  have hsame : b₀.depth = b.depth := congrArg Outline.depth h₀
  have hentered : b'.outline = b.outline.enter closing := by
    rw [h₁, h₀, Outline.enter, funext hdepth, hsame]
    rfl
  rw [hentered]
  exact .enter htag hleave

theorem opens_startAttribute (htag : tag ≠ .choice) (h : b.startAttribute name attributes = .ok (b', closing)) :
    b.outline.Opens tag attributes closing b'.outline := by
  have hstored : ∃ stored : Builder, ∃ slot : Option AttributeSlot, stored.outline = b.outline ∧
      b' = { stored with slot := slot, attributeDepth := b.attributeDepth + 1 } ∧ closing = .leaveAttribute := by
    unfold startAttribute at h
    dsimp only at h
    split at h
    · cases h
      refine ⟨_, _, ?_, rfl, rfl⟩
      exact outline_modifyNode b _ (fun _ => rfl) fun _ => rfl
    · rename_i hframes
      cases h
      refine ⟨_, _, ?_, rfl, rfl⟩
      exact outline_setTopFrame hframes rfl
    · cases h
  obtain ⟨stored, slot, hsame, rfl, rfl⟩ := hstored
  refine opens_enter stored htag rfl hsame rfl fun c => ?_
  cases c <;> rfl

theorem opens_startAttributeGroup (htag : tag ≠ .choice)
    (h : b.startAttributeGroup name attributes = .ok (b', closing)) :
    b.outline.Opens tag attributes closing b'.outline := by
  unfold startAttributeGroup at h
  split at h
  · cases h
    exact .attributeGroup htag
  · split at h
    · cases h
    · cases h
      exact .skip htag
  · split at h
    · rename_i hframes
      cases h
      exact opens_skip htag (outline_setTopFrame hframes rfl)
    · cases h
      refine opens_skip htag ?_
      exact outline_modifyCurrent b (fun _ => rfl) fun _ => rfl

theorem opens_startSimpleType (htag : tag ≠ .choice)
    (h : b.startSimpleType name attributes = .ok (b', closing)) :
    b.outline.Opens tag attributes closing b'.outline := by
  unfold startSimpleType at h
  extract_lets insideSimpleType insideAttributeGroup owner at h
  split at h
  · cases h
    exact .skip htag
  · split at h
    · rename_i typeName _
      cases h
      have hnamed : (b.modifyCurrent fun n => { n with simpleTypeName := some (cleanup typeName) }).outline =
          b.outline := outline_modifyCurrent b (fun _ => rfl) fun _ => rfl
      have hopens : b.outline.Opens tag attributes _ _ := .simpleType htag
      rw [← hnamed] at hopens ⊢
      exact hopens
    · split at h
      · cases h
        exact .skip htag
      · cases h

theorem opens_startConstruct (h : b.startConstruct tag name attributes = .ok (b', closing)) :
    b.outline.Opens tag attributes closing b'.outline := by
  have hfacet : tag ≠ .choice → (b.startFacet tag name attributes).map (·, Closing.nothing) = .ok (b', closing) →
      b.outline.Opens tag attributes closing b'.outline := by
    intro htag hfacet
    obtain ⟨changed, hstart, heq⟩ := exists_of_map_eq_ok hfacet
    cases heq
    exact opens_skip htag (outline_startFacet hstart)
  unfold startConstruct at h
  cases tag with
  | schema => cases h
  | element => exact opens_startNode (by decide) (.inl rfl) h
  | complexType =>
      dsimp only at h
      split at h
      · rename_i htop
        exact opens_startNode (by decide) (.inr ⟨rfl, htop⟩) h
      · cases h
        exact opens_skip (by decide) (outline_lendComplexType b attributes)
  | any => exact opens_startWildcard (by decide) h
  | group => exact opens_startGroup (by decide) h
  | sequence | all | complexContent | other =>
      cases h
      exact opens_skip (by decide) rfl
  | choice =>
      cases h
      have hchoice : b.outline.frames.length = b.frames.length := List.length_map _
      have hopens : b.outline.Opens _ attributes _ _ := .choice rfl
      rw [Outline.pushChoice, hchoice] at hopens
      exact hopens
  | «attribute» => exact opens_startAttribute (by decide) h
  | attributeGroup => exact opens_startAttributeGroup (by decide) h
  | anyAttribute =>
      cases h
      refine opens_skip (by decide) ?_
      exact outline_modifyCurrent b (fun _ => rfl) fun _ => rfl
  | simpleContent =>
      cases h
      refine opens_enter (b.modifyCurrent fun n => { n with hasSimpleContent := true }) (by decide) rfl ?_ rfl ?_
      · exact outline_modifyCurrent b (fun _ => rfl) fun _ => rfl
      · intro c
        cases c <;> rfl
  | extension =>
      cases h
      exact opens_skip (by decide) (outline_startExtension b attributes)
  | simpleType => exact opens_startSimpleType (by decide) h
  | restriction =>
      cases h
      refine opens_enter (b.startRestriction attributes) (by decide) rfl (outline_startRestriction b attributes) rfl fun c => ?_
      cases c <;> rfl
  | enumeration | minInclusive | maxInclusive | whiteSpace => exact hfacet (by decide) h
  | union =>
      cases h
      exact opens_skip (by decide) (outline_startUnion b attributes)
  | list =>
      cases h
      exact opens_skip (by decide) (outline_startList b attributes)
  | annotated =>
      cases h
      refine opens_enter b (by decide) rfl rfl rfl fun c => ?_
      cases c <;> rfl
  | documentation =>
      dsimp only at h
      split at h
      · cases h
        refine opens_enter b (by decide) rfl rfl rfl fun c => ?_
        cases c <;> rfl
      · cases h
        exact opens_skip (by decide) rfl

/-! ### End tags -/

theorem outline_attach (b : Builder) (id : NodeId) :
    (b.attach id).outline = { b.outline with toTree := b.outline.attach id } := by
  unfold attach Tree.attach
  split
  · rename_i parent rest hframes
    have hframes' : b.outline.frames = .node parent :: rest.map Frame.shape := by
      simp [outline, hframes, Frame.shape]
    rw [hframes']
    refine Outline.ext (by simp [modifyNode, modifyModel, Model.modifyNode, outline])
      (funext fun x => ?_) (funext fun x => ?_) rfl hframes' rfl rfl rfl rfl rfl rfl rfl
    · exact Model.congr_modifyNode (g := Node.bare) (fun _ => by rfl) b.model parent x
    · change ((b.model.modifyNode parent _).node x).children = _
      rw [Model.node_modifyNode]
      by_cases hx : x = parent ∧ b.model.Holds parent
      · rw [if_pos hx]
        exact (if_pos hx).symm
      · rw [if_neg hx]
        exact (if_neg hx).symm
  · rename_i hframes
    split
    · rename_i parent rest hshape
      -- A frame that looks like the frame of a node is one.
      cases hb : b.frames with
      | nil => simp [outline, hb] at hshape
      | cons frame others =>
          cases frame with
          | node id => exact absurd hb (hframes id others)
          | simpleType d | attributeGroup d => simp [outline, hb, Frame.shape] at hshape
    · rfl

theorem exists_of_popNode_eq_ok {popped : Builder} {id : NodeId} (h : b.popNode name = .ok (popped, id)) :
    ∃ rest, b.outline.frames = .node id :: rest ∧ popped.outline = { b.outline with frames := rest } := by
  unfold popNode at h
  split at h
  · rename_i rest hframes
    cases h
    exact ⟨rest.map Frame.shape, by simp [outline, hframes, Frame.shape], rfl⟩
  · cases h

theorem closes_leave (hleave : closing.isLeave = true) (h : b'.outline = { b.outline with depth := b'.depth })
    (hdepth : ∀ c, b'.depth c = if c = closing then b.depth c - 1 else b.depth c) :
    b.outline.Closes closing b'.outline := by
  have hleft : b'.outline = b.outline.leave closing := by
    rw [h, Outline.leave, funext hdepth]
    rfl
  rw [hleft]
  exact .leave hleave

theorem closes_close (h : b.close name closing = .ok b') : b.outline.Closes closing b'.outline := by
  unfold close at h
  cases closing with
  | nothing =>
      cases h
      exact .nothing
  | closeSchema =>
      cases h
      have hroot := Outline.Closes.root (o := b.outline)
      rw [show b.outline.frames.tail = b.frames.tail.map Frame.shape from List.map_tail.symm] at hroot
      exact hroot
  | popNode =>
      obtain ⟨⟨popped, id⟩, hpop, rfl⟩ := exists_of_map_eq_ok h
      obtain ⟨rest, htop, hpopped⟩ := exists_of_popNode_eq_ok hpop
      rw [outline_attach, hpopped]
      exact .node htop
  | popGroup role =>
      obtain ⟨⟨popped, id⟩, hpop, rfl⟩ := exists_of_map_eq_ok h
      obtain ⟨rest, htop, hpopped⟩ := exists_of_popNode_eq_ok hpop
      cases role with
      | definition =>
          have hclosed : b.outline.Closes (.popGroup .definition) { popped.outline with
              groups := popped.outline.groups.insert (popped.outline.bare id).name id } := by
            rw [hpopped]
            exact .definition htop
          exact hclosed
      | reference =>
          rw [outline_attach, hpopped]
          exact .reference htop
      | ignored =>
          rw [hpopped]
          exact .ignored htop
  | popSimpleType =>
      dsimp only at h
      split at h
      · rename_i d rest hframes
        cases h
        have htop : b.outline.frames = .simpleType :: rest.map Frame.shape := by
          simp [outline, hframes, Frame.shape]
        exact .simpleType htop
      · cases h
  | popAttributeGroup =>
      dsimp only at h
      split at h
      · rename_i d rest hframes
        cases h
        have htop : b.outline.frames = .attributeGroup :: rest.map Frame.shape := by
          simp [outline, hframes, Frame.shape]
        exact .attributeGroup htop
      · cases h
  | closeChoice =>
      cases h
      exact .choice
  | leaveAttribute | leaveRestriction | leaveSimpleContent | leaveAnnotated | leaveDocumentation =>
      cases h
      refine closes_leave rfl rfl fun c => ?_
      cases c <;> rfl

theorem next_of_feed {e : Event} (h : b.feed e = .ok b') : b.outline.Next e b'.outline := by
  cases e with
  | startTag name attributes =>
      change b.startTag name attributes = .ok b' at h
      unfold startTag at h
      split at h
      · rename_i hseen
        unfold startRoot at h
        split at h
        · rename_i hname
          cases h
          exact .root (by simpa [outline] using hseen) hname _
        · cases h
      · rename_i hseen
        split at h
        · cases h
        · rename_i hclosed
          obtain ⟨⟨after, closing⟩, hstart, rfl⟩ := exists_of_map_eq_ok h
          exact .start (by simpa [outline] using hseen) (by simpa [outline] using hclosed)
            (opens_startConstruct hstart)
  | text content =>
      cases h
      rw [outline_text]
      exact .text content
  | endTag name =>
      change b.endTag name = .ok b' at h
      unfold endTag at h
      split at h
      · cases h
      · rename_i tag rest htags
        split at h
        · rename_i hname
          subst hname
          exact .close (o := b.outline) htags (closes_close (b := { b with openTags := rest }) h)
        · cases h

theorem reads_of_feedAll {prefixOverride : Option String} {events : List Event}
    (h : (start prefixOverride).feedAll events = .ok b) : Outline.Reads events b.outline := by
  unfold feedAll at h
  induction events using List.reverseRecOn generalizing b with
  | nil =>
      cases h
      exact .start
  | append_singleton events e ih =>
      rw [List.foldlM_append] at h
      obtain ⟨before, hbefore, hlast⟩ := exists_of_bind_eq_ok h
      refine .next (ih hbefore) (next_of_feed ?_)
      simpa using hlast

end Builder

end SchemaBinding
