import SchemaBinding.Proofs.Builder.Forest
import SchemaBinding.Proofs.Builder.Started
import SchemaBinding.Proofs.Builder.ValueSpaces
import SchemaBinding.Proofs.Table

/-!
# `SchemaBinding.Proofs.Builder.InlineTypes`: simple types inside of elements

All simple types of a document go into one table, where the last one of a name counts. `Builder.finished` lists them in the
order in which they are finished, so that the table can be read off this list (`Builder.table_of_feedAll`).

A simple type without a name goes by the name of the element around it. `InlineType` says where such a simple type stands in
a document, and `InlineType.exists_own` what the document says of it: it is finished under this name, its values are what
its tags say, and the element refers to it by the name. Whatever is finished later under the same name takes its place.
-/

set_option autoImplicit false

namespace SchemaBinding

/-! ### The simple types of a document -/

namespace Builder

variable {b b' : Builder} {name : String} {attributes : Attributes} {events : List Event} {id : NodeId}

/-- The simple type that an event finishes. -/
def finished? (b : Builder) : Event → Option SimpleTypeDef
  | .endTag _ => b.openTags.head?.bind fun tag => b.finishedBy? tag.closing
  | .startTag _ _ | .text _ => none

/-- The simple types that events finish, one after the other. -/
def finished (b : Builder) : List Event → List SimpleTypeDef
  | [] => []
  | e :: rest =>
    match b.feed e with
    | .ok next => (b.finished? e).toList ++ next.finished rest
    | .error _ => []

theorem finished_cons {e : Event} (h : b.feed e = .ok b') (rest : List Event) :
    b.finished (e :: rest) = (b.finished? e).toList ++ b'.finished rest := by
  rw [finished, h]

theorem finished_append {first : List Event} (h : b.feedAll first = .ok b') (second : List Event) :
    b.finished (first ++ second) = b.finished first ++ b'.finished second := by
  induction first generalizing b with
  | nil =>
      cases h
      rfl
  | cons e rest ih =>
      obtain ⟨next, hfirst, hrest⟩ := exists_of_feedAll_cons h
      rw [List.cons_append, finished_cons hfirst, finished_cons hfirst, ih hrest, List.append_assoc]

theorem OpensTypes.table_eq {tag : Tag} {closing : Closing} {s : SimpleTypes}
    (h : b.OpensTypes tag attributes closing s) : s.table = b.simpleTypes.table := by
  cases h with
  | fill =>
      unfold filled
      split <;> rfl
  | frame | simpleType => rfl

theorem table_of_feed {e : Event} (h : b.feed e = .ok b') :
    b'.simpleTypes.table = b.simpleTypes.table.insertAll ((b.finished? e).toList.map SimpleTypeDef.entry) := by
  cases e with
  | text content =>
      cases h
      exact congrArg SimpleTypes.table (simpleTypes_text b content)
  | endTag name =>
      obtain ⟨closing, rest, hopen, hclose⟩ := exists_of_endTag h
      have hfinished : b.finished? (.endTag name) = (b.withOpenTags rest).finishedBy? closing := by
        rw [finished?, hopen]
        rfl
      rw [hfinished]
      exact congrArg SimpleTypes.table (simpleTypes_close hclose)
  | startTag name attributes =>
      by_cases hseen : b.seenRoot = true
      · obtain ⟨opened, closing, hstart, rfl⟩ := exists_of_startTag hseen h
        exact (opensTypes_startConstruct hstart).table_eq
      · have hroot : b.startRoot name attributes = .ok b' := by
          simpa [feed, startTag, hseen] using h
        unfold startRoot at hroot
        split at hroot
        · cases hroot
          rfl
        · cases hroot

/-- The table holds the simple types that are finished, the last one of each name. -/
theorem table_of_feedAll (h : b.feedAll events = .ok b') :
    b'.simpleTypes.table = b.simpleTypes.table.insertAll ((b.finished events).map SimpleTypeDef.entry) := by
  induction events generalizing b with
  | nil =>
      cases h
      rfl
  | cons e rest ih =>
      obtain ⟨next, hfirst, hrest⟩ := exists_of_feedAll_cons h
      rw [ih hrest, table_of_feed hfirst, finished_cons hfirst]
      simp only [Table.insertAll, List.map_append, List.foldl_append]

end Builder

/-- The table of a document holds the simple types of the document, the last one of each name. -/
theorem Model.simpleTypes_of_ofEvents {prefixOverride : Option String} {events : List Event} {m : Model}
    (h : ofEvents prefixOverride events = .ok m) :
    m.symbols.simpleTypes = .ofList (((Builder.start prefixOverride).finished events).map SimpleTypeDef.entry) := by
  obtain ⟨b, hfeed, hfinish⟩ := exists_of_ofEvents h
  obtain ⟨rfl, -, -⟩ := Builder.eq_of_finish hfinish
  exact Builder.table_of_feedAll hfeed

theorem Model.get?_simpleTypes_of_ofEvents {prefixOverride : Option String} {events : List Event} {m : Model}
    (h : ofEvents prefixOverride events = .ok m) (key : String) : m.symbols.simpleTypes.get? key =
      ((Builder.start prefixOverride).finished events).reverse.find? (·.name == key) := by
  rw [simpleTypes_of_ofEvents h, Table.get?_ofList, ← List.map_reverse, List.find?_map, Option.map_map]
  exact Option.map_id'

namespace Builder

variable {b b' : Builder} {events : List Event} {id : NodeId}

/-! ### The names that nodes have -/

theorem names_of_feed {e : Event} (hseen : b.seenRoot = true) (h : b.feed e = .ok b')
    (hid : ∀ name attributes, e = .startTag name attributes → b.builtins.tag name = .simpleType →
      b.currentNode? ≠ some id) : b'.simpleTypes.names id = b.simpleTypes.names id := by
  cases e with
  | text content =>
      cases h
      exact congrArg (·.names id) (simpleTypes_text b content)
  | endTag name =>
      obtain ⟨closing, rest, hopen, hclose⟩ := exists_of_endTag h
      exact congrArg (·.names id) (simpleTypes_close hclose)
  | startTag name attributes =>
      obtain ⟨opened, closing, hstart, rfl⟩ := exists_of_startTag hseen h
      exact (opensTypes_startConstruct hstart).names_eq (hid name attributes rfl)

/-- Where no simple type begins, nodes keep the names that they have. -/
theorem names_of_no_types (hseen : b.seenRoot = true) (h : b.feedAll events = .ok b')
    (hnone : ∀ name attributes, .startTag name attributes ∈ events → b.builtins.tag name ≠ .simpleType) :
    b'.simpleTypes.names id = b.simpleTypes.names id := by
  induction events generalizing b with
  | nil =>
      cases h
      rfl
  | cons e rest ih =>
      obtain ⟨next, hfirst, hrest⟩ := exists_of_feedAll_cons h
      obtain ⟨hbuiltins, hseen'⟩ := builtins_of_feed hfirst hseen
      have hsame : next.simpleTypes.names id = b.simpleTypes.names id := by
        refine names_of_feed hseen hfirst fun name attributes heq htag => ?_
        exact absurd htag (hnone name attributes (heq ▸ List.mem_cons_self ..))
      refine (ih hseen' hrest fun name attributes hmem => ?_).trans hsame
      rw [hbuiltins]
      exact hnone name attributes (List.mem_cons_of_mem _ hmem)

end Builder

namespace Outline

variable {o o' : Outline} {e : Event} {id : NodeId}

/-- The node has been read to its end, or is no part of the tree. -/
def HasLeft (o : Outline) (id : NodeId) : Prop := id.index < o.size ∧ .node id ∉ o.frames

/-- A node that has left does not come back. -/
theorem HasLeft.next (h : o.HasLeft id) (hseen : o.seenRoot = true) (hnext : o.Next e o') : o'.HasLeft id := by
  obtain ⟨hheld, hout⟩ := h
  refine ⟨Nat.lt_of_lt_of_le hheld hnext.size_bare.1, ?_⟩
  cases hnext with
  | text => exact hout
  | root hnone => cases hseen.symm.trans hnone
  | start _ _ hopens =>
      cases hopens with
      | skip | choice | enter => exact hout
      | node =>
          intro hmem
          rcases List.mem_cons.mp hmem with heq | hmem
          · -- A new node is none of those that were there.
            cases heq
            exact Nat.lt_irrefl _ hheld
          · exact hout hmem
      | simpleType | attributeGroup =>
          intro hmem
          rcases List.mem_cons.mp hmem with heq | hmem
          · cases heq
          · exact hout hmem
  | close _ hcloses =>
      rw [hcloses.frames]
      split
      · exact fun hmem => hout (List.mem_of_mem_tail hmem)
      · exact hout

end Outline

namespace Builder

variable {b b' : Builder} {events : List Event} {id : NodeId}

theorem currentNode?_ne_of_hasLeft (h : b.outline.HasLeft id) : b.currentNode? ≠ some id := by
  intro hcurrent
  exact h.2 (List.mem_of_head? (currentNode?_eq_some_iff.mp hcurrent).2)

/-- A node that has left keeps the name that it has. -/
theorem names_of_hasLeft (hseen : b.seenRoot = true) (h : b.feedAll events = .ok b') (hleft : b.outline.HasLeft id) :
    b'.simpleTypes.names id = b.simpleTypes.names id := by
  induction events generalizing b with
  | nil =>
      cases h
      rfl
  | cons e rest ih =>
      obtain ⟨next, hfirst, hrest⟩ := exists_of_feedAll_cons h
      have hleft' : next.outline.HasLeft id := hleft.next hseen (next_of_feed hfirst)
      rw [ih (builtins_of_feed hfirst hseen).2 hrest hleft']
      exact names_of_feed hseen hfirst fun _ _ _ _ => currentNode?_ne_of_hasLeft hleft

/-! ### The start tags of an element and of a simple type -/

/-- The node of an element that names no type. -/
theorem declaredNode_untyped (b : Builder) {attributes : Attributes} (kind : NodeKind) (bounds : Nat × MaxOccurs)
    (hnone : attributes.get? "type" = none ∧ attributes.get? "ref" = none) :
    let n := withOccurs bounds (b.declaredNode kind attributes)
    n.kind = kind ∧ n.name = ((attributes.get? "name").map localPart).getD "" ∧ n.rawType = "" := by
  obtain ⟨htype, href⟩ := hnone
  unfold declaredNode withMixed
  rw [htype, href]
  cases attributes.get? "mixed" <;> simp [withOccurs, Node.ofKind]

/-- A simple type without a name opens a frame under the name of the node around it. -/
theorem startSimpleType_of_current (tag : String) {attributes : Attributes} (hname : attributes.get? "name" = none)
    (hcurrent : b.currentNode? = some id) (hdepth : b.attributeDepth = 0) :
    let name := cleanup (b.model.node id).name
    b.startSimpleType tag attributes =
      .ok ((b.modifyCurrent fun n => { n with simpleTypeName := some name }).pushFrame (.simpleType { name := name }),
        .popSimpleType) := by
  have hframes : ∃ rest, b.frames = .node id :: rest := by
    unfold currentNode? at hcurrent
    split at hcurrent
    · rename_i rest hframes
      split at hcurrent
      · cases hcurrent
      · cases hcurrent
        exact ⟨rest, hframes⟩
    · cases hcurrent
  obtain ⟨rest, hframes⟩ := hframes
  simp [startSimpleType, hdepth, hframes, hname, hcurrent, pure, Except.pure]

end Builder

/-! ### A simple type inside of an element -/

/-- Where a document has an element that names no type and has a simple type without a name inside of it. -/
structure InlineType (builtins : Builtins) where
  before : List Event
  element : String
  attributes : Attributes
  front : List Event
  type : String
  typeAttributes : Attributes
  content : List Event
  back : List Event
  after : List Event
  isElement : builtins.tag element = .element
  untyped : attributes.get? "type" = none ∧ attributes.get? "ref" = none
  isType : builtins.tag type = .simpleType
  unnamed : typeAttributes.get? "name" = none
  front_balanced : Balanced (front.filter Event.isTag)
  content_balanced : Balanced (content.filter Event.isTag)
  back_balanced : Balanced (back.filter Event.isTag)
  /-- No other simple type begins before the element ends. -/
  single : ∀ name attributes, .startTag name attributes ∈ back → builtins.tag name ≠ .simpleType

namespace InlineType

variable {builtins : Builtins} (d : InlineType builtins)

/-- All that comes after the simple type. -/
def rest : List Event := d.back ++ .endTag d.element :: d.after

/-- The document. -/
def events : List Event :=
  d.before ++ .startTag d.element d.attributes ::
    (d.front ++ .startTag d.type d.typeAttributes :: (d.content ++ .endTag d.type :: d.rest))

/-- The name under which the simple type is put into the table. -/
def key : String := cleanup (((d.attributes.get? "name").map localPart).getD "")

variable {d} {b b₁ b₂ b' : Builder} {events : List Event}

/-- A builder stands right inside of the element that came after `b`. -/
structure At (d : InlineType builtins) (b b₁ : Builder) : Prop where
  frames : b₁.outline.frames = .node b.model.nextId :: b.outline.frames
  openTags : b₁.openTags = ⟨d.element, .popNode⟩ :: b.openTags
  depth : b₁.attributeDepth = b.attributeDepth
  builtins : b₁.builtins = b.builtins
  seenRoot : b₁.seenRoot = true
  size_lt : b.outline.size < b₁.outline.size
  kind : (b₁.model.node b.model.nextId).kind = .element
  name : (b₁.model.node b.model.nextId).name = ((d.attributes.get? "name").map localPart).getD ""
  rawType : (b₁.model.node b.model.nextId).rawType = ""

/-- The start tag of the element. -/
theorem at_of_startTag (hseen : b.seenRoot = true) (hbuiltins : b.builtins = builtins)
    (h : b.startTag d.element d.attributes = .ok b₁) : d.At b b₁ := by
  obtain ⟨hsame, hseen'⟩ := Builder.builtins_of_feed (e := .startTag d.element d.attributes) h hseen
  obtain ⟨opened, closing, hstart, rfl⟩ := Builder.exists_of_startTag hseen h
  have hdepth := (Builder.opens_startConstruct hstart).depth (c := .leaveAttribute) rfl
  rw [hbuiltins, d.isElement] at hstart
  obtain ⟨bounds, -, rfl, rfl⟩ := Builder.exists_of_startNode hstart
  obtain ⟨hkind, hname, hraw⟩ := Builder.declaredNode_untyped b .element bounds d.untyped
  obtain ⟨-, hchildren, -⟩ := Builder.declaredNode_fields b .element bounds d.attributes
  have houtline := Builder.outline_pushNode (b.noteSubstitution d.attributes) hchildren
  rw [Builder.outline_noteSubstitution] at houtline
  have hbare := congrFun (congrArg (·.bare) houtline) b.model.nextId
  have hnew : (b.outline.pushNode (Builder.withOccurs bounds (b.declaredNode .element d.attributes))).bare
      b.model.nextId = (Builder.withOccurs bounds (b.declaredNode .element d.attributes)).bare := if_pos rfl
  have hnode := hbare.trans hnew
  exact {
    frames := congrArg (·.frames) houtline
    openTags := rfl
    depth := hdepth
    builtins := hsame
    seenRoot := hseen'
    size_lt := by
      have hsize := congrArg (·.size) houtline
      exact hsize ▸ Nat.lt_succ_self _
    kind := (congrArg Node.kind hnode).trans hkind
    name := (congrArg Node.name hnode).trans hname
    rawType := (congrArg Node.rawType hnode).trans hraw }

/-- Whole tags inside of the element do not lead out of it. -/
theorem At.runs (h : d.At b b₁) (hruns : b₁.Runs events b₂) (hopen : b₂.openTags = b₁.openTags)
    (hseen : b₂.seenRoot = true) : d.At b b₂ := by
  have hreturns := hruns.returns
  have hnode : (b₂.model.node b.model.nextId).bare = (b₁.model.node b.model.nextId).bare :=
    hreturns.bare b.model.nextId h.size_lt
  exact {
    frames := hreturns.frames.trans h.frames
    openTags := hopen.trans h.openTags
    depth := (hreturns.depth .leaveAttribute rfl).trans h.depth
    builtins := hreturns.builtins.trans h.builtins
    seenRoot := hseen
    size_lt := Nat.lt_of_lt_of_le h.size_lt hreturns.size_le
    kind := (congrArg Node.kind hnode).trans h.kind
    name := (congrArg Node.name hnode).trans h.name
    rawType := (congrArg Node.rawType hnode).trans h.rawType }

theorem At.feedAll (h : d.At b b₁) (hbalanced : Balanced (events.filter Event.isTag)) (hread : b₁.feedAll events = .ok b₂) :
    d.At b b₂ := by
  have hfeeds : b₁.Feeds events b₂ := Builder.feeds_of_balanced hbalanced hread
  exact h.runs (hfeeds.runs h.seenRoot) hfeeds.spans.1 (Builder.builtins_of_feedAll hread h.seenRoot).2

theorem At.currentNode? (h : d.At b b₁) (hsize : 0 < b.outline.size) : b₁.currentNode? = some b.model.nextId := by
  have hroot : b.model.nextId ≠ Model.root := fun heq => Nat.ne_of_gt hsize (congrArg NodeId.index heq)
  refine Builder.currentNode?_eq_some_iff.mpr ⟨hroot, ?_⟩
  rw [h.frames]
  rfl

/-- The end tag of the element. -/
theorem At.hasLeft (h : d.At b b₁) (hforest : b.outline.Forest) (hend : b₁.endTag d.element = .ok b₂) :
    b₂.outline.HasLeft b.model.nextId := by
  obtain ⟨closing, tags, hopen, hclose⟩ := Builder.exists_of_endTag hend
  obtain ⟨htag, rfl⟩ := List.cons_eq_cons.mp (hopen.symm.trans h.openTags)
  obtain rfl : closing = .popNode := congrArg OpenTag.closing htag
  have hcloses := Builder.closes_close hclose
  refine ⟨Nat.lt_of_lt_of_eq h.size_lt hcloses.size_bare.1.symm, ?_⟩
  have hframes : b₂.outline.frames = b.outline.frames := by
    rw [hcloses.frames]
    exact congrArg List.tail h.frames
  rw [hframes]
  -- The frames below are those of nodes that were there before.
  exact fun hmem => Nat.lt_irrefl _ (hforest.free _ hmem).1

/-- The simple type without a name, from its start tag to its end tag. -/
def typeEvents (d : InlineType builtins) : List Event :=
  .startTag d.type d.typeAttributes :: (d.content ++ [.endTag d.type])

theorem balanced_typeEvents (d : InlineType builtins) : Balanced (d.typeEvents.filter Event.isTag) := by
  rw [typeEvents, List.filter_cons_of_pos rfl, List.filter_append]
  exact .tree d.content_balanced .nil

/-- The start tag of the simple type opens a frame under the name of the element, which takes this name over. -/
theorem At.startTag_type (h : d.At b b₁) (hsize : 0 < b.outline.size) (hdepth : b.attributeDepth = 0)
    (hbuiltins : b.builtins = builtins) (hread : b₁.startTag d.type d.typeAttributes = .ok b₂) :
    b₂.openTags = ⟨d.type, .popSimpleType⟩ :: b₁.openTags ∧ b₂.currentNode? = none ∧ b₂.attributeDepth = 0 ∧
      b₂.simpleTypes.unfinished = some (d.key, {}) :: b₁.simpleTypes.unfinished ∧
      b₂.simpleTypes.names b.model.nextId = some d.key := by
  obtain ⟨opened, closing, hstart, rfl⟩ := Builder.exists_of_startTag h.seenRoot hread
  have hcurrent := h.currentNode? hsize
  have hopened := Builder.startSimpleType_of_current d.type d.unnamed hcurrent (h.depth.trans hdepth)
  rw [h.builtins, hbuiltins, d.isType] at hstart
  obtain ⟨rfl, rfl⟩ := Prod.mk.inj (Except.ok.inj (hopened.symm.trans hstart))
  have hkey : cleanup (b₁.model.node b.model.nextId).name = d.key := congrArg cleanup h.name
  rw [hkey]
  let named := b₁.modifyCurrent fun n => { n with simpleTypeName := some d.key }
  have houtline : named.outline = b₁.outline := Builder.outline_modifyCurrent b₁ (fun _ => rfl) fun _ => rfl
  have hnamed : named.simpleTypes = _ := Builder.simpleTypes_nameCurrent b₁ d.key
  refine ⟨rfl, rfl, ?_, ?_, ?_⟩
  · exact (congrFun (congrArg Outline.depth houtline) .leaveAttribute).trans (h.depth.trans hdepth)
  · exact congrArg (some (d.key, {}) :: ·) (congrArg SimpleTypes.unfinished hnamed)
  · refine (congrArg (·.names b.model.nextId) hnamed).trans ?_
    exact if_pos ⟨hcurrent, h.size_lt⟩

/-- When the simple type is closed, it is finished under the name of the element and with the values that its tags give. -/
theorem At.exists_own (h : d.At b b₁) (hsize : 0 < b.outline.size) (hdepth : b.attributeDepth = 0)
    (hbuiltins : b.builtins = builtins) (hread : b₁.feedAll d.typeEvents = .ok b₂) :
    b₂.simpleTypes.names b.model.nextId = some d.key ∧
      ∃ inner own, b₁.finished d.typeEvents = inner ++ [own] ∧ own.name = d.key ∧
        own.valueSpace = ValueSpace.read builtins d.content := by
  obtain ⟨opened, hstart, hread⟩ := Builder.exists_of_feedAll_cons hread
  obtain ⟨inside, hcontent, hread⟩ := Builder.exists_of_feedAll_append hread
  obtain ⟨closed, hend, hnil⟩ := Builder.exists_of_feedAll_cons hread
  obtain rfl : closed = b₂ := Except.ok.inj hnil
  obtain ⟨hopen, hcurrent, hopenedDepth, hunfinished, hnames⟩ := h.startTag_type hsize hdepth hbuiltins hstart
  obtain ⟨hsame, hseen⟩ := Builder.builtins_of_feed hstart h.seenRoot
  have hfeeds : opened.Feeds d.content inside := Builder.feeds_of_balanced d.content_balanced hcontent
  have hruns : opened.Runs d.content inside := hfeeds.runs hseen
  have hbelow : b₁.simpleTypes.unfinished ≠ [] := by
    obtain ⟨frame, rest, hframes, -⟩ := List.map_eq_cons_iff.mp h.frames
    simp [Builder.simpleTypes, hframes]
  -- Right before the end tag, the frame on top holds what the content says.
  obtain ⟨v, hfold, hinside⟩ := hruns.read_unfinished hunfinished hbelow hopenedDepth
  obtain ⟨own, others, hframes, hname, hvalues, -⟩ := Builder.exists_frames_of_unfinished hinside
  -- The tag that is closed is that of the simple type.
  obtain ⟨closing, tags, hinsideOpen, hclose⟩ := Builder.exists_of_endTag hend
  have htag : closing = .popSimpleType := by
    have hspan := hfeeds.spans.1.trans hopen
    exact congrArg OpenTag.closing (List.cons_eq_cons.mp (hinsideOpen.symm.trans hspan)).1
  subst htag
  have hfinished : inside.finished? (.endTag d.type) = some own := by
    rw [Builder.finished?, hinsideOpen]
    simp [Builder.finishedBy?, hframes]
  refine ⟨?_, opened.finished d.content, own, ?_, hname, ?_⟩
  · have hheld : opened.model.Holds b.model.nextId :=
      Nat.lt_of_lt_of_le h.size_lt (Builder.next_of_feed hstart).size_bare.1
    have hclosed : closed.simpleTypes.names b.model.nextId = inside.simpleTypes.names b.model.nextId :=
      congrArg (·.names b.model.nextId) (Builder.simpleTypes_close hclose)
    rw [hclosed, hruns.names_eq hheld (by simp [hcurrent])]
    exact hnames
  · rw [typeEvents, Builder.finished_cons hstart, Builder.finished_append hcontent, Builder.finished_cons hend, hfinished]
    rfl
  · rw [hsame, h.builtins, hbuiltins] at hfold
    rw [hvalues, ValueSpace.read, hfold]

theorem seenRoot_of_startTag (d : InlineType builtins) (h : b.startTag d.element d.attributes = .ok b₁) :
    b.seenRoot = true := by
  have hschema : builtins.tag d.element ≠ .schema := by simp [d.isElement]
  exact Builder.seenRoot_of_construct hschema (by simp [d.isElement]) h

theorem events_eq (d : InlineType builtins) :
    d.events = d.before ++ .startTag d.element d.attributes :: (d.front ++ (d.typeEvents ++ d.rest)) := by
  simp [events, typeEvents]

/-- The element keeps the name of its simple type to the end of the document. -/
theorem At.names_of_rest {last : Builder} (h : d.At b b₁) (hforest : b.outline.Forest) (hbuiltins : b.builtins = builtins)
    (hread : b₁.feedAll d.rest = .ok last) :
    last.simpleTypes.names b.model.nextId = b₁.simpleTypes.names b.model.nextId := by
  obtain ⟨b₂, hback, hread⟩ := Builder.exists_of_feedAll_append hread
  obtain ⟨b₃, hend, hafter⟩ := Builder.exists_of_feedAll_cons hread
  -- Up to its end tag the element is on top but no simple type begins, and afterwards it is gone.
  have hat : d.At b b₂ := h.feedAll d.back_balanced hback
  have hseen : b₃.seenRoot = true := (Builder.builtins_of_feed hend hat.seenRoot).2
  have hnone : ∀ name attributes, .startTag name attributes ∈ d.back → b₁.builtins.tag name ≠ .simpleType := by
    rw [h.builtins, hbuiltins]
    exact d.single
  rw [Builder.names_of_hasLeft hseen hafter (hat.hasLeft hforest hend),
    Builder.names_of_feed hat.seenRoot hend nofun, Builder.names_of_no_types h.seenRoot hback hnone]

/-- A document is read up to the simple type, and from there to the end. -/
theorem exists_at {prefixOverride : Option String} {m : Model} (d : InlineType m.builtins)
    (hread : Model.ofEvents prefixOverride d.events = .ok m)
    (hbefore : (Builder.start prefixOverride).feedAll d.before = .ok b) :
    ∃ b₁ b₂ last earlier, d.At b b₁ ∧ d.At b b₂ ∧ b.builtins = m.builtins ∧ b₁.feedAll d.typeEvents = .ok b₂ ∧
      b₂.feedAll d.rest = .ok last ∧ last.model = m ∧
      (Builder.start prefixOverride).finished d.events = earlier ++ (b₁.finished d.typeEvents ++ b₂.finished d.rest) := by
  obtain ⟨last, hfeed, hfinish⟩ := Model.exists_of_ofEvents hread
  obtain ⟨hmodel, -, -⟩ := Builder.eq_of_finish hfinish
  rw [events_eq, Builder.feedAll_append_of_ok hbefore] at hfeed
  obtain ⟨opened, hstart, hinside⟩ := Builder.exists_of_feedAll_cons hfeed
  obtain ⟨b₁, hfront, htyped⟩ := Builder.exists_of_feedAll_append hinside
  obtain ⟨b₂, htype, hrest⟩ := Builder.exists_of_feedAll_append htyped
  have hseen : b.seenRoot = true := d.seenRoot_of_startTag hstart
  have hbuiltins : b.builtins = m.builtins := by
    rw [← hmodel]
    exact (Builder.builtins_of_feedAll hfeed hseen).1.symm
  have hat : d.At b b₁ := (at_of_startTag hseen hbuiltins hstart).feedAll d.front_balanced hfront
  refine ⟨b₁, b₂, last, (Builder.start prefixOverride).finished d.before ++
    ((b.finished? (.startTag d.element d.attributes)).toList ++ opened.finished d.front), hat,
    hat.feedAll d.balanced_typeEvents htype, hbuiltins, htype, hrest, hmodel, ?_⟩
  rw [events_eq, Builder.finished_append hbefore, Builder.finished_cons hstart, Builder.finished_append hfront,
    Builder.finished_append htype]
  simp only [List.append_assoc]

/-- What a document says of the simple type and of the element around it. -/
theorem exists_own_of_ofEvents {prefixOverride : Option String} {m : Model} (d : InlineType m.builtins)
    (hread : Model.ofEvents prefixOverride d.events = .ok m)
    (hbefore : (Builder.start prefixOverride).feedAll d.before = .ok b) (hdepth : b.attributeDepth = 0) :
    (∃ earlier own later, (Builder.start prefixOverride).finished d.events = earlier ++ own :: later ∧
      own.name = d.key ∧ own.valueSpace = ValueSpace.read m.builtins d.content) ∧
      m.Holds b.model.nextId ∧ (m.node b.model.nextId).kind = .element ∧ (m.node b.model.nextId).rawType = "" ∧
        (m.node b.model.nextId).simpleTypeName = some d.key := by
  have hreads : Outline.Reads d.before b.outline := Builder.reads_of_feedAll hbefore
  have hsize : 0 < b.outline.size := hreads.populated.root.1
  obtain ⟨b₁, b₂, last, earlier, hat₁, hat₂, hbuiltins, htype, hrest, rfl, hall⟩ := d.exists_at hread hbefore
  obtain ⟨hnames, inner, own, hfinished, hname, hvalues⟩ := hat₁.exists_own hsize hdepth hbuiltins htype
  obtain ⟨hsize', hbare⟩ := Builder.bare_of_feedAll hrest
  have hnode : (last.model.node b.model.nextId).bare = (b₂.model.node b.model.nextId).bare :=
    hbare b.model.nextId hat₂.size_lt
  refine ⟨⟨earlier ++ inner, own, b₂.finished d.rest, ?_, hname, hvalues⟩, Nat.lt_of_lt_of_le hat₂.size_lt hsize', ?_, ?_, ?_⟩
  · rw [hall, hfinished]
    simp
  · exact (congrArg Node.kind hnode).trans hat₂.kind
  · exact (congrArg Node.rawType hnode).trans hat₂.rawType
  · exact (hat₂.names_of_rest hreads.forest hbuiltins hrest).trans hnames

end InlineType

end SchemaBinding
