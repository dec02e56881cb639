import SchemaBinding.Proofs.Builder.Discipline

/-!
# `SchemaBinding.Proofs.Builder.SimpleTypes`: what events do to simple types

A simple type is read on a frame of its own and put into the table when it is finished. `Builder.simpleTypes` keeps of a
builder what is known of simple types: of those on the frames the name, the base and the facets, the table, and the names
by which nodes refer to them. It is the counterpart of the outline, which leaves all of this out.

Most tags change nothing of it. A restriction, a list or a facet fills in the simple type on top of the frames
(`ValueSpace.take`), and nothing below it (`Builder.opensTypes_startConstruct`). An end tag may take the frame on top away,
and only then does a simple type come into the table (`Builder.simpleTypes_close`).
-/

set_option autoImplicit false

namespace SchemaBinding

/-- What a simple type says of its values. -/
structure ValueSpace where
  base : Option String := none
  facets : Facets := {}
  deriving Repr, DecidableEq

/-- What a tag inside of a simple type adds to it. -/
def ValueSpace.take (tag : Tag) (attributes : Attributes) (v : ValueSpace) : ValueSpace :=
  match tag with
  | .restriction => { v with base := (attributes.get? "base").or v.base }
  | .list => { v with base := (attributes.get? "itemType").or v.base }
  | .enumeration | .minInclusive | .maxInclusive =>
    match attributes.get? "value" with
    | some value => { v with facets := Builder.addFacet tag value v.facets }
    | none => v
  | _ => v

/-- Whether a tag inside of a simple type declares something else, to which its content then belongs. -/
def Tag.declares (tag : Tag) (attributes : Attributes) : Bool :=
  match tag with
  | element | any | group => true
  | attributeGroup => (attributes.get? "name").isSome
  | _ => false

def SimpleTypeDef.valueSpace (d : SimpleTypeDef) : ValueSpace := ⟨d.base, d.facets⟩

/-- A simple type under its name. -/
def SimpleTypeDef.entry (d : SimpleTypeDef) : String × SimpleTypeDef := (d.name, d)

/-- The simple type that is read on a frame. -/
def Frame.simpleType? : Frame → Option (String × ValueSpace)
  | simpleType d => some (d.name, d.valueSpace)
  | node _ | attributeGroup _ => none

/-- Simple types while a schema is read. -/
@[ext]
structure SimpleTypes where
  /-- Those that are being read, by frames. -/
  unfinished : List (Option (String × ValueSpace))
  table : Table SimpleTypeDef
  /-- The simple type that stands inside of a node. -/
  names : NodeId → Option String

namespace Builder

def simpleTypes (b : Builder) : SimpleTypes where
  unfinished := b.frames.map Frame.simpleType?
  table := b.model.symbols.simpleTypes
  names id := (b.model.node id).simpleTypeName

/-- No simple type is on top of the frames. -/
def OutsideType (b : Builder) : Prop := ∀ d rest, b.frames ≠ .simpleType d :: rest

/-- The simple types after a tag that opens no frame. Inside of an attribute such a tag says nothing of a simple type. -/
def filled (b : Builder) (tag : Tag) (attributes : Attributes) : SimpleTypes :=
  if b.attributeDepth = 0 then
    { b.simpleTypes with
      unfinished := b.simpleTypes.unfinished.modifyHead (Option.map fun (name, v) => (name, v.take tag attributes)) }
  else b.simpleTypes

/-- What a start tag does to simple types, with the closing that it leaves. -/
inductive OpensTypes (b : Builder) (tag : Tag) (attributes : Attributes) : Closing → SimpleTypes → Prop where
  | fill {closing : Closing} (howns : closing.ownsFrame = false) (hdeclares : tag.declares attributes = false)
      (hattribute : closing = .leaveAttribute → b.OutsideType) :
      OpensTypes b tag attributes closing (b.filled tag attributes)
  | frame {closing : Closing} (howns : closing.ownsFrame = true)
      (hdeclares : tag.declares attributes = true ∨ b.frames.length = 1) :
      OpensTypes b tag attributes closing { b.simpleTypes with unfinished := none :: b.simpleTypes.unfinished }
  | simpleType {name : String} {names : NodeId → Option String} (htag : tag = .simpleType) (houtside : b.OutsideType)
      (hnames : ∀ id, b.currentNode? ≠ some id → names id = b.simpleTypes.names id) :
      OpensTypes b tag attributes .popSimpleType
        ⟨some (name, {}) :: b.simpleTypes.unfinished, b.simpleTypes.table, names⟩

variable {b b' : Builder} {tag : Tag} {name : String} {attributes : Attributes} {closing : Closing}

/-! ### Parts of tags that leave simple types as they are -/

theorem simpleTypes_modifyNode (b : Builder) (id : NodeId) {f : Node → Node}
    (hf : ∀ n, (f n).simpleTypeName = n.simpleTypeName) : (b.modifyNode id f).simpleTypes = b.simpleTypes :=
  SimpleTypes.ext rfl rfl (funext fun x => Model.congr_modifyNode (g := Node.simpleTypeName) hf b.model id x)

theorem simpleTypes_modifyCurrent (b : Builder) {f : Node → Node}
    (hf : ∀ n, (f n).simpleTypeName = n.simpleTypeName) : (b.modifyCurrent f).simpleTypes = b.simpleTypes := by
  unfold modifyCurrent
  split
  · exact simpleTypes_modifyNode b _ hf
  · rfl

theorem simpleTypes_pushFrame (b : Builder) (frame : Frame) : (b.pushFrame frame).simpleTypes =
    { b.simpleTypes with unfinished := frame.simpleType? :: b.simpleTypes.unfinished } := rfl

theorem simpleTypes_setTopFrame {frame old : Frame} {rest : List Frame} (hframes : b.frames = old :: rest) :
    (b.setTopFrame frame).simpleTypes =
      { b.simpleTypes with unfinished := frame.simpleType? :: rest.map Frame.simpleType? } := by
  simp [setTopFrame, simpleTypes, hframes]

theorem simpleTypes_setTopFrame_of_eq {frame old : Frame} {rest : List Frame} (hframes : b.frames = old :: rest)
    (hsame : frame.simpleType? = old.simpleType?) : (b.setTopFrame frame).simpleTypes = b.simpleTypes := by
  rw [simpleTypes_setTopFrame hframes, hsame]
  simp [simpleTypes, hframes]

theorem simpleTypes_modifyAttribute? {f : AttributeDef → AttributeDef} (h : b.modifyAttribute? f = some b') :
    b'.simpleTypes = b.simpleTypes := by
  unfold modifyAttribute? at h
  split at h
  · cases h
  · split at h
    · cases h
    · dsimp only at h
      split at h
      · split at h
        · cases h
          exact simpleTypes_modifyNode b _ fun _ => rfl
        · cases h
      · rename_i hplace
        split at h
        · cases h
          -- The frame is still one of an attribute group.
          exact SimpleTypes.ext (map_set_of_eq hplace rfl) rfl rfl
        · cases h
      · cases h

theorem simpleTypes_noteSubstitution (b : Builder) (attributes : Attributes) :
    (b.noteSubstitution attributes).simpleTypes = b.simpleTypes := by
  unfold noteSubstitution
  split <;> rfl

theorem simpleTypeName_withMixed (attributes : Attributes) (n : Node) :
    (withMixed attributes n).simpleTypeName = n.simpleTypeName := by
  unfold withMixed
  split <;> rfl

theorem simpleTypes_lendComplexType (b : Builder) (attributes : Attributes) :
    (b.lendComplexType attributes).simpleTypes = b.simpleTypes := by
  refine simpleTypes_modifyCurrent b fun n => ?_
  dsimp only
  split <;> exact simpleTypeName_withMixed attributes n

theorem simpleTypes_extendCurrent (b : Builder) (base : String) : (b.extendCurrent base).simpleTypes = b.simpleTypes := by
  unfold extendCurrent
  split <;> exact simpleTypes_modifyCurrent b fun _ => rfl

theorem simpleTypes_startExtension (b : Builder) (attributes : Attributes) :
    (b.startExtension attributes).simpleTypes = b.simpleTypes := by
  unfold startExtension
  split
  · exact simpleTypes_extendCurrent b _
  · rfl

theorem simpleTypes_pushNode (b : Builder) {n : Node} (hn : n.simpleTypeName = none) :
    (b.pushNode n).simpleTypes = { b.simpleTypes with unfinished := none :: b.simpleTypes.unfinished } := by
  refine SimpleTypes.ext rfl rfl (funext fun x => ?_)
  change ((b.model.addNode n).node x).simpleTypeName = (b.model.node x).simpleTypeName
  rw [Model.node_addNode]
  split
  · rename_i hx
    subst hx
    -- The place held no node before, and so it had no simple type.
    have hplace : ¬ b.model.Holds b.model.nextId := Nat.lt_irrefl _
    rw [hn, Model.node_of_not_holds hplace]
    rfl
  · rfl

theorem simpleTypes_attach (b : Builder) (id : NodeId) : (b.attach id).simpleTypes = b.simpleTypes := by
  unfold attach
  split
  · exact simpleTypes_modifyNode b _ fun _ => rfl
  · rfl

theorem simpleTypes_text (b : Builder) (content : String) : (b.text content).simpleTypes = b.simpleTypes := by
  unfold text
  split
  · rfl
  · split
    · rename_i hframes
      exact simpleTypes_setTopFrame_of_eq hframes rfl
    · exact simpleTypes_modifyCurrent b fun _ => rfl

/-! ### Tags that fill a simple type in -/

theorem filled_of_take_eq (h : ∀ v : ValueSpace, v.take tag attributes = v) :
    b.filled tag attributes = b.simpleTypes := by
  unfold filled
  split
  · refine SimpleTypes.ext ?_ rfl rfl
    cases b.simpleTypes.unfinished with
    | nil => rfl
    | cons top rest => cases top <;> simp [h]
  · rfl

theorem filled_of_outside (h : b.OutsideType) : b.filled tag attributes = b.simpleTypes := by
  unfold filled
  split
  · refine SimpleTypes.ext ?_ rfl rfl
    unfold simpleTypes
    cases hframes : b.frames with
    | nil => rfl
    | cons frame rest =>
        cases frame with
        | simpleType d => exact absurd hframes (h d rest)
        | node | attributeGroup => rfl
  · rfl

theorem filled_of_inside {d : SimpleTypeDef} {rest : List Frame} (hframes : b.frames = .simpleType d :: rest)
    (hdepth : b.attributeDepth = 0) : b.filled tag attributes =
      { b.simpleTypes with
        unfinished := some (d.name, d.valueSpace.take tag attributes) :: rest.map Frame.simpleType? } := by
  unfold filled
  rw [if_pos hdepth]
  simp [simpleTypes, hframes, Frame.simpleType?]

theorem outsideType_of_frames_eq {frame : Frame} {rest : List Frame} (hframes : b.frames = frame :: rest)
    (hframe : frame.simpleType? = none) : b.OutsideType := by
  intro d others heq
  obtain ⟨rfl, -⟩ := List.cons_eq_cons.mp (hframes.symm.trans heq)
  cases hframe

theorem simpleTypes_startRestriction (b : Builder) (attributes : Attributes) :
    (b.startRestriction attributes).simpleTypes = b.filled .restriction attributes := by
  unfold startRestriction
  cases hbase : attributes.get? "base" with
  | none => exact (filled_of_take_eq fun v => by simp [ValueSpace.take, hbase]).symm
  | some base =>
      show (b.restrict base).simpleTypes = _
      unfold restrict
      split
      · rename_i hdepth
        have hsame : b.filled .restriction attributes = b.simpleTypes := if_neg (Nat.ne_of_gt hdepth)
        rw [hsame]
        cases hchanged : b.modifyAttribute? fun d => { d with declaredType := base } with
        | none => rfl
        | some changed => exact simpleTypes_modifyAttribute? hchanged
      · rename_i hdepth
        split
        · rename_i d rest hframes
          rw [simpleTypes_setTopFrame hframes, filled_of_inside hframes (by omega)]
          simp [Frame.simpleType?, ValueSpace.take, SimpleTypeDef.valueSpace, hbase]
        · rename_i houtside
          rw [filled_of_outside houtside]
          split
          · exact simpleTypes_extendCurrent b base
          · exact simpleTypes_modifyCurrent b fun _ => rfl

theorem simpleTypes_startList (b : Builder) (attributes : Attributes) :
    (b.startList attributes).simpleTypes = b.filled .list attributes := by
  unfold startList
  split
  · rename_i d rest hframes
    split
    · rename_i hdepth
      rw [simpleTypes_setTopFrame hframes, filled_of_inside hframes hdepth]
      rfl
    · rename_i hdepth
      exact (if_neg hdepth).symm
  · rename_i houtside
    exact (filled_of_outside houtside).symm

theorem simpleTypes_startUnion (b : Builder) (attributes : Attributes) :
    (b.startUnion attributes).simpleTypes = b.simpleTypes := by
  unfold startUnion
  split
  · rename_i hframes _
    exact simpleTypes_setTopFrame_of_eq hframes rfl
  · rfl

theorem simpleTypes_startWhiteSpace (b : Builder) (value : String) :
    (b.startWhiteSpace value).simpleTypes = b.simpleTypes := by
  unfold startWhiteSpace
  split
  · split
    · rename_i hframes
      exact simpleTypes_setTopFrame_of_eq hframes rfl
    · exact simpleTypes_modifyNode b _ fun _ => rfl
    · rfl
  · rfl

/-- Facets go to the simple type on top, unless they are those of an attribute. -/
theorem simpleTypes_modifyFacets? {f : Facets → Facets}
    (htake : ∀ v : ValueSpace, v.take tag attributes = ⟨v.base, f v.facets⟩) (h : b.modifyFacets? f = some b') :
    b'.simpleTypes = b.filled tag attributes := by
  unfold modifyFacets? at h
  split at h
  · rename_i hdepth
    have hsame : b.filled tag attributes = b.simpleTypes := if_neg (Nat.ne_of_gt hdepth)
    rw [hsame]
    exact simpleTypes_modifyAttribute? h
  · rename_i hdepth
    split at h
    · rename_i d rest hframes
      cases h
      rw [simpleTypes_setTopFrame hframes, filled_of_inside hframes (by omega), htake]
      rfl
    · rename_i houtside
      rw [filled_of_outside houtside]
      obtain ⟨id, -, rfl⟩ := Option.map_eq_some_iff.mp h
      exact simpleTypes_modifyNode b id fun _ => rfl

/-- Facets fill in what a simple type says of its values. -/
theorem simpleTypes_startFacet (htake : ∀ v : ValueSpace, v.take tag attributes =
      (attributes.get? "value").elim v fun value => ⟨v.base, addFacet tag value v.facets⟩)
    (h : b.startFacet tag name attributes = .ok b') : b'.simpleTypes = b.filled tag attributes := by
  unfold startFacet at h
  split at h
  · rename_i hvalue
    cases h
    exact (filled_of_take_eq fun v => by simp [htake, hvalue]).symm
  · rename_i value hvalue
    have htake' : ∀ v : ValueSpace, v.take tag attributes = ⟨v.base, addFacet tag value v.facets⟩ := by
      intro v
      rw [htake, hvalue]
      rfl
    split at h
    · -- White space is no facet.
      rename_i hspace
      cases h
      rw [simpleTypes_startWhiteSpace, filled_of_take_eq]
      intro v
      rw [htake', hspace]
      rfl
    · split at h
      · rename_i changed hchanged
        cases h
        exact simpleTypes_modifyFacets? htake' hchanged
      · cases h

/-! ### Tags that open a frame -/

theorem opensTypes_pushNode (b₀ : Builder) {n : Node} (hn : n.simpleTypeName = none) (hsame : b₀.simpleTypes = b.simpleTypes)
    (howns : closing.ownsFrame = true) (hdeclares : tag.declares attributes = true ∨ b.frames.length = 1) :
    b.OpensTypes tag attributes closing (b₀.pushNode n).simpleTypes := by
  rw [simpleTypes_pushNode b₀ hn, hsame]
  exact .frame howns hdeclares

theorem simpleTypeName_declaredNode (b : Builder) (kind : NodeKind) (bounds : Nat × MaxOccurs) (attributes : Attributes) :
    (withOccurs bounds (b.declaredNode kind attributes)).simpleTypeName = none := by
  show (b.declaredNode kind attributes).simpleTypeName = none
  unfold declaredNode
  rw [simpleTypeName_withMixed]
  rfl

theorem opensTypes_startNode {kind : NodeKind} (hdeclares : tag.declares attributes = true ∨ b.frames.length = 1)
    (h : b.startNode kind name attributes = .ok (b', closing)) : b.OpensTypes tag attributes closing b'.simpleTypes := by
  unfold startNode at h
  dsimp only at h
  split at h
  · cases h
  · obtain ⟨bounds, -, h⟩ := exists_of_bind_eq_ok h
    cases h
    have hname := simpleTypeName_declaredNode b kind bounds attributes
    exact opensTypes_pushNode _ hname (simpleTypes_noteSubstitution b attributes) rfl hdeclares

theorem opensTypes_startWildcard (hdeclares : tag.declares attributes = true)
    (h : b.startWildcard name attributes = .ok (b', closing)) : b.OpensTypes tag attributes closing b'.simpleTypes := by
  obtain ⟨bounds, -, h⟩ := exists_of_bind_eq_ok h
  cases h
  exact opensTypes_pushNode b rfl rfl rfl (.inl hdeclares)

theorem opensTypes_startGroup (hdeclares : tag.declares attributes = true)
    (h : b.startGroup name attributes = .ok (b', closing)) : b.OpensTypes tag attributes closing b'.simpleTypes := by
  unfold startGroup at h
  split at h
  · split at h
    · cases h
    · cases h
      exact opensTypes_pushNode b rfl rfl rfl (.inl hdeclares)
  · obtain ⟨bounds, -, h⟩ := exists_of_bind_eq_ok h
    cases h
    exact opensTypes_pushNode b rfl rfl rfl (.inl hdeclares)
  · cases h
    exact opensTypes_pushNode b rfl rfl rfl (.inl hdeclares)

theorem opensTypes_startAttributeGroup (h : b.startAttributeGroup name attributes = .ok (b', closing)) :
    b.OpensTypes .attributeGroup attributes closing b'.simpleTypes := by
  have hskip : attributes.get? "name" = none → b'.simpleTypes = b.simpleTypes → closing = .nothing →
      b.OpensTypes .attributeGroup attributes closing b'.simpleTypes := by
    rintro hnone hsame rfl
    have hfilled : b.filled .attributeGroup attributes = b.simpleTypes := filled_of_take_eq fun _ => rfl
    rw [hsame, ← hfilled]
    exact .fill rfl (by simp [Tag.declares, hnone]) (by simp)
  unfold startAttributeGroup at h
  split at h
  · rename_i hname
    cases h
    exact .frame rfl (.inl (by simp [Tag.declares, hname]))
  · rename_i hname _
    split at h
    · cases h
    · cases h
      exact hskip hname rfl rfl
  · rename_i hname _
    split at h
    · rename_i hframes
      cases h
      exact hskip hname (simpleTypes_setTopFrame_of_eq hframes rfl) rfl
    · cases h
      exact hskip hname (simpleTypes_modifyCurrent b fun _ => rfl) rfl

/-- A simple type gives its name to the node around it. -/
theorem simpleTypes_nameCurrent (b : Builder) (name : String) :
    (b.modifyCurrent fun n => { n with simpleTypeName := some name }).simpleTypes =
      { b.simpleTypes with
        names := fun id => if b.currentNode? = some id ∧ b.model.Holds id then some name else b.simpleTypes.names id } := by
  unfold modifyCurrent
  cases hcurrent : b.currentNode? with
  | none => simp
  | some id =>
      refine SimpleTypes.ext rfl rfl (funext fun x => ?_)
      show ((b.model.modifyNode id _).node x).simpleTypeName = if some id = some x ∧ _ then some name else _
      rw [Model.node_modifyNode]
      by_cases hx : x = id
      · subst hx
        by_cases hheld : b.model.Holds x
        · simp [hheld]
        · simp [hheld, simpleTypes]
      · have hother : id ≠ x := Ne.symm hx
        simp [hx, hother, simpleTypes]

theorem opensTypes_startSimpleType (h : b.startSimpleType name attributes = .ok (b', closing)) :
    b.OpensTypes .simpleType attributes closing b'.simpleTypes := by
  have hskip : b.OpensTypes .simpleType attributes .nothing b.simpleTypes := by
    have hfilled : b.filled .simpleType attributes = b.simpleTypes := filled_of_take_eq fun _ => rfl
    rw [← hfilled]
    exact .fill rfl rfl (by simp)
  unfold startSimpleType at h
  extract_lets insideSimpleType insideAttributeGroup owner at h
  split at h
  · cases h
    exact hskip
  · rename_i hread
    split at h
    · rename_i typeName _
      cases h
      have houtside : b.OutsideType := by
        intro d rest hframes
        simp [insideSimpleType, hframes] at hread
      rw [simpleTypes_pushFrame, simpleTypes_nameCurrent]
      exact .simpleType rfl houtside fun id hid => if_neg fun hcurrent => hid hcurrent.1
    · split at h
      · cases h
        exact hskip
      · cases h

theorem opensTypes_startAttribute (h : b.startAttribute name attributes = .ok (b', closing)) :
    b.OpensTypes .attribute attributes closing b'.simpleTypes := by
  have hsame : b.OutsideType → b'.simpleTypes = b.simpleTypes → closing = .leaveAttribute →
      b.OpensTypes .attribute attributes closing b'.simpleTypes := by
    rintro houtside hsame rfl
    have hfilled : b.filled .attribute attributes = b.simpleTypes := filled_of_outside houtside
    rw [hsame, ← hfilled]
    exact .fill rfl rfl fun _ => houtside
  unfold startAttribute at h
  dsimp only at h
  split at h
  · rename_i hframes
    cases h
    exact hsame (outsideType_of_frames_eq hframes rfl) (simpleTypes_modifyNode b _ fun _ => rfl) rfl
  · rename_i hframes
    cases h
    exact hsame (outsideType_of_frames_eq hframes rfl) (simpleTypes_setTopFrame_of_eq hframes rfl) rfl
  · cases h

/-- A tag that says nothing of simple types. -/
theorem opensTypes_skip (hclosing : closing.ownsFrame = false ∧ closing ≠ .leaveAttribute)
    (hdeclares : tag.declares attributes = false) (htake : ∀ v : ValueSpace, v.take tag attributes = v)
    (h : b'.simpleTypes = b.simpleTypes) : b.OpensTypes tag attributes closing b'.simpleTypes := by
  rw [h, ← filled_of_take_eq htake]
  exact .fill hclosing.1 hdeclares fun heq => absurd heq hclosing.2

theorem opensTypes_startConstruct (h : b.startConstruct tag name attributes = .ok (b', closing)) :
    b.OpensTypes tag attributes closing b'.simpleTypes := by
  have hfacet : (tag.declares attributes = false) → (∀ v : ValueSpace, v.take tag attributes =
        (attributes.get? "value").elim v fun value => ⟨v.base, addFacet tag value v.facets⟩) →
      (b.startFacet tag name attributes).map (·, Closing.nothing) = .ok (b', closing) →
      b.OpensTypes tag attributes closing b'.simpleTypes := by
    intro hdeclares htake hfacet
    obtain ⟨changed, hstart, heq⟩ := exists_of_map_eq_ok hfacet
    cases heq
    rw [simpleTypes_startFacet htake hstart]
    exact .fill rfl hdeclares (by simp)
  unfold startConstruct at h
  cases tag with
  | schema => cases h
  | element => exact opensTypes_startNode (.inl rfl) h
  | complexType =>
      dsimp only at h
      split at h
      · rename_i htop
        exact opensTypes_startNode (.inr (by simpa [atTopLevel] using htop)) h
      · cases h
        exact opensTypes_skip (by decide) rfl (fun _ => rfl) (simpleTypes_lendComplexType b attributes)
  | any => exact opensTypes_startWildcard rfl h
  | group => exact opensTypes_startGroup rfl h
  | sequence | all | complexContent | other | choice | annotated =>
      cases h
      exact opensTypes_skip (by decide) rfl (fun _ => rfl) rfl
  | «attribute» => exact opensTypes_startAttribute h
  | attributeGroup => exact opensTypes_startAttributeGroup h
  | anyAttribute =>
      cases h
      exact opensTypes_skip (by decide) rfl (fun _ => rfl) (simpleTypes_modifyCurrent b fun _ => rfl)
  | simpleContent =>
      cases h
      refine opensTypes_skip (by decide) rfl (fun _ => rfl) ?_
      exact simpleTypes_modifyCurrent b (f := fun n => { n with hasSimpleContent := true }) fun _ => rfl
  | extension =>
      cases h
      exact opensTypes_skip (by decide) rfl (fun _ => rfl) (simpleTypes_startExtension b attributes)
  | simpleType => exact opensTypes_startSimpleType h
  | restriction =>
      cases h
      show b.OpensTypes _ _ _ (b.startRestriction attributes).simpleTypes
      rw [simpleTypes_startRestriction]
      exact .fill rfl rfl (by simp)
  | enumeration | minInclusive | maxInclusive | whiteSpace =>
      refine hfacet rfl (fun v => ?_) h
      cases hvalue : attributes.get? "value" <;> simp [ValueSpace.take, hvalue, addFacet]
  | union =>
      cases h
      exact opensTypes_skip (by decide) rfl (fun _ => rfl) (simpleTypes_startUnion b attributes)
  | list =>
      cases h
      rw [simpleTypes_startList]
      exact .fill rfl rfl (by simp)
  | documentation =>
      dsimp only at h
      split at h <;> cases h <;> exact opensTypes_skip (by decide) rfl (fun _ => rfl) rfl

/-! ### End tags -/

/-- The simple type that is finished when a tag is closed. -/
def finishedBy? (b : Builder) (closing : Closing) : Option SimpleTypeDef :=
  match closing, b.frames with
  | .popSimpleType, .simpleType d :: _ => some d
  | _, _ => none

theorem simpleTypes_popNode {popped : Builder} {id : NodeId} (h : b.popNode name = .ok (popped, id)) :
    popped.simpleTypes = { b.simpleTypes with unfinished := b.simpleTypes.unfinished.tail } := by
  unfold popNode at h
  split at h
  · rename_i rest hframes
    cases h
    simp [simpleTypes, hframes]
  · cases h

/-- An end tag takes the frame of its start tag away, and puts a simple type that stood there into the table. -/
theorem simpleTypes_close (h : b.close name closing = .ok b') : b'.simpleTypes =
    { b.simpleTypes with
      unfinished := if closing.ownsFrame then b.simpleTypes.unfinished.tail else b.simpleTypes.unfinished
      table := b.simpleTypes.table.insertAll ((b.finishedBy? closing).toList.map SimpleTypeDef.entry) } := by
  unfold close at h
  cases closing with
  | popNode =>
      obtain ⟨⟨popped, id⟩, hnode, rfl⟩ := exists_of_map_eq_ok h
      rw [simpleTypes_attach, simpleTypes_popNode hnode]
      rfl
  | popGroup role =>
      obtain ⟨⟨popped, id⟩, hnode, rfl⟩ := exists_of_map_eq_ok h
      cases role with
      | definition =>
          show popped.simpleTypes = _
          rw [simpleTypes_popNode hnode]
          rfl
      | reference =>
          dsimp only
          rw [simpleTypes_attach, simpleTypes_popNode hnode]
          rfl
      | ignored =>
          show popped.simpleTypes = _
          rw [simpleTypes_popNode hnode]
          rfl
  | popSimpleType =>
      dsimp only at h
      split at h
      · rename_i d rest hframes
        cases h
        have hfinished : b.finishedBy? .popSimpleType = some d := by simp [finishedBy?, hframes]
        rw [hfinished]
        refine SimpleTypes.ext ?_ ?_ rfl
        · simp [simpleTypes, hframes, defineSimpleType, modifyModel, Closing.ownsFrame]
        · rfl
      · cases h
  | popAttributeGroup =>
      dsimp only at h
      split at h
      · rename_i d rest hframes
        cases h
        refine SimpleTypes.ext ?_ rfl rfl
        simp [simpleTypes, hframes, modifyModel, Closing.ownsFrame]
      · cases h
  | closeSchema =>
      cases h
      refine SimpleTypes.ext ?_ rfl rfl
      simp [simpleTypes, Closing.ownsFrame]
  | _ =>
      cases h
      rfl

end Builder

end SchemaBinding
