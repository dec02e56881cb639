import SchemaBinding.Proofs.Builder.Started

/-!
# `SchemaBinding.Proofs.Builder.Choices`: the bounds that a choice hands down

A particle without bounds of its own takes those of the choice that it stands in. The builder finds this choice by the
number of frames (`Builder.occurs`): the innermost open choice counts if as many frames are open as there were when the
choice began.

What a reader of the document sees is a matter of the start tags that are open. `frameOf?` says which of them open a frame,
`directChoice?` goes outwards from the particle to a choice and gives up at the first frame. The open tags of a builder are
labelled with what their start tags say (`Labelled`), and so the two agree (`Labelled.head?_openChoices`,
`Builder.bounds_of_directChoice`).
-/

set_option autoImplicit false

namespace SchemaBinding

/-! ### The frames of start tags -/

/-- The kinds of frames. The root is apart, since a simple type takes no name from it. -/
inductive FrameKind where
  | root
  | node
  | simpleType
  | attributeGroup
  deriving Repr, DecidableEq

/-- The frame that a start tag below the root opens, by the frames around it and whether it stands inside of an attribute. -/
def Tag.frameKind? (tag : Tag) (attributes : Attributes) (around : List FrameKind) (insideAttribute : Bool) :
    Option FrameKind :=
  match tag with
  | .element | .any | .group => some .node
  | .complexType => if around.length = 1 then some .node else none
  | .attributeGroup => if (attributes.get? "name").isSome then some .attributeGroup else none
  | .simpleType =>
    if insideAttribute || around.head? = some .simpleType then none
    else if (attributes.get? "name").isSome || around.head? = some .node then some .simpleType
    else none
  | _ => none

/-- Whether one of the start tags is that of an attribute. -/
def insideAttribute (builtins : Builtins) (starts : List (String × Attributes)) : Bool :=
  starts.any fun start => builtins.tag start.1 = .attribute

/-- The frame that a start tag opens inside of others, by the frames of these. The outermost start tag is that of the root. -/
def frameAmong? (builtins : Builtins) (start : String × Attributes) (outer : List (String × Attributes))
    (around : List FrameKind) : Option FrameKind :=
  if outer.isEmpty then some .root
  else (builtins.tag start.1).frameKind? start.2 around (insideAttribute builtins outer)

/-- The frames of start tags that are open, with the innermost first. -/
def frameKinds (builtins : Builtins) : List (String × Attributes) → List FrameKind
  | [] => []
  | start :: outer =>
    (frameAmong? builtins start outer (frameKinds builtins outer)).toList ++ frameKinds builtins outer

/-- The frame that a start tag opens inside of others. -/
def frameOf? (builtins : Builtins) (start : String × Attributes) (outer : List (String × Attributes)) : Option FrameKind :=
  frameAmong? builtins start outer (frameKinds builtins outer)

theorem frameKinds_cons (builtins : Builtins) (start : String × Attributes) (outer : List (String × Attributes)) :
    frameKinds builtins (start :: outer) = (frameOf? builtins start outer).toList ++ frameKinds builtins outer := rfl

/-- What the start tag of the choice says in which a particle stands, with no other frame between the two. -/
def directChoice? (builtins : Builtins) : List (String × Attributes) → Option Attributes
  | [] => none
  | start :: outer =>
    if builtins.tag start.1 = .choice then some start.2
    else if (frameOf? builtins start outer).isSome then none
    else directChoice? builtins outer

/-- None of the inner start tags begins a choice or opens a frame. -/
def Passes (builtins : Builtins) (inner outer : List (String × Attributes)) : Prop :=
  ∀ front start back, inner = front ++ start :: back →
    builtins.tag start.1 ≠ .choice ∧ frameOf? builtins start (back ++ outer) = none

section

variable {builtins : Builtins} {start : String × Attributes} {starts inner outer : List (String × Attributes)}

theorem passes_nil : Passes builtins [] outer := by
  intro front start back h
  cases front <;> cases h

theorem passes_cons : Passes builtins (start :: inner) outer ↔
    (builtins.tag start.1 ≠ .choice ∧ frameOf? builtins start (inner ++ outer) = none) ∧ Passes builtins inner outer := by
  constructor
  · exact fun h => ⟨h [] start inner rfl, fun front s back heq => h (start :: front) s back (congrArg (start :: ·) heq)⟩
  · rintro ⟨hfirst, hrest⟩ front s back heq
    cases front with
    | nil =>
        obtain ⟨rfl, rfl⟩ := List.cons_eq_cons.mp heq
        exact hfirst
    | cons first front => exact hrest front s back (List.cons_eq_cons.mp heq).2

/-- The choice is the innermost one that is open, and no start tag inside of it has opened a frame. -/
theorem directChoice?_eq_some_iff {attributes : Attributes} : directChoice? builtins starts = some attributes ↔
    ∃ inner name outer, starts = inner ++ (name, attributes) :: outer ∧ builtins.tag name = .choice ∧
      Passes builtins inner ((name, attributes) :: outer) := by
  constructor
  · intro h
    induction starts with
    | nil => cases h
    | cons start rest ih =>
        unfold directChoice? at h
        split at h
        · rename_i hchoice
          cases h
          exact ⟨[], start.1, rest, rfl, hchoice, passes_nil⟩
        · rename_i hchoice
          split at h
          · cases h
          · rename_i hframe
            obtain ⟨inner, name, outer, rfl, htag, hpasses⟩ := ih h
            have hnone : frameOf? builtins start (inner ++ (name, attributes) :: outer) = none := by simpa using hframe
            exact ⟨start :: inner, name, outer, rfl, htag, passes_cons.mpr ⟨⟨hchoice, hnone⟩, hpasses⟩⟩
  · rintro ⟨inner, name, outer, rfl, htag, hpasses⟩
    induction inner with
    | nil => simp [directChoice?, htag]
    | cons start inner ih =>
        obtain ⟨⟨hchoice, hframe⟩, hrest⟩ := passes_cons.mp hpasses
        simpa [directChoice?, hchoice, hframe] using ih hrest

end

/-! ### The frames of open tags -/

namespace Closing

/-- The frame that a closing takes off. -/
def frameKind? : Closing → Option FrameKind
  | closeSchema => some .root
  | popNode | popGroup _ => some .node
  | popSimpleType => some .simpleType
  | popAttributeGroup => some .attributeGroup
  | _ => none

theorem ownsFrame_eq (closing : Closing) : closing.ownsFrame = closing.frameKind?.isSome := by
  cases closing <;> rfl

end Closing

def FrameShape.kind : FrameShape → FrameKind
  | node id => if id = Model.root then .root else .node
  | simpleType => .simpleType
  | attributeGroup => .attributeGroup

theorem Tree.Owned.frameKind?_eq {t : Tree} {closing : Closing} {f : FrameShape} (h : t.Owned closing f) :
    closing.frameKind? = some f.kind := by
  cases h with
  | root => rfl
  | node hroot _ hkind =>
      rw [FrameShape.kind, if_neg hroot]
      cases closing <;> first | rfl | cases hkind
  | simpleType | attributeGroup => rfl

theorem frameKind?_of_owned {t : Tree} {tags : List OpenTag} {frames : List FrameShape}
    (h : List.Forall₂ t.Owned (owners tags) frames) :
    tags.filterMap (·.closing.frameKind?) = frames.map FrameShape.kind := by
  induction tags generalizing frames with
  | nil =>
      obtain rfl : frames = [] := List.forall₂_nil_left_iff.mp h
      rfl
  | cons tag tags ih =>
      rw [owners_cons] at h
      by_cases howns : tag.closing.ownsFrame = true
      · rw [if_pos howns] at h
        obtain ⟨f, rest, howned, hrest, rfl⟩ := List.forall₂_cons_left_iff.mp h
        rw [List.filterMap_cons, howned.frameKind?_eq, ih hrest]
        rfl
      · rw [if_neg howns] at h
        have hnone : tag.closing.frameKind? = none := by simpa [Closing.ownsFrame_eq] using howns
        rw [List.filterMap_cons, hnone, ih h]

/-- What an open tag will do when it is closed is what its start tag says. -/
structure Labels (builtins : Builtins) (closing : Closing) (start : String × Attributes)
    (outer : List (String × Attributes)) : Prop where
  frame : closing.frameKind? = frameOf? builtins start outer
  isAttribute : closing = .leaveAttribute ↔ builtins.tag start.1 = .attribute
  isChoice : closing = .closeChoice ↔ builtins.tag start.1 = .choice

/-- Each of the open tags is labelled with what its start tag says. -/
inductive Labelled (builtins : Builtins) : List OpenTag → List (String × Attributes) → Prop where
  | nil : Labelled builtins [] []
  | cons {tag : OpenTag} {tags : List OpenTag} {start : String × Attributes} {outer : List (String × Attributes)}
      (hlabels : Labels builtins tag.closing start outer) (hrest : Labelled builtins tags outer) :
      Labelled builtins (tag :: tags) (start :: outer)

namespace Labelled

variable {builtins : Builtins} {tags : List OpenTag} {starts : List (String × Attributes)}

theorem eq_nil_iff (h : Labelled builtins tags starts) : tags = [] ↔ starts = [] := by
  cases h <;> simp

theorem tail {tag : OpenTag} (h : Labelled builtins (tag :: tags) starts) : Labelled builtins tags starts.tail := by
  cases h with
  | cons _ hrest => exact hrest

theorem frameKinds_eq (h : Labelled builtins tags starts) :
    frameKinds builtins starts = tags.filterMap (·.closing.frameKind?) := by
  induction h with
  | nil => rfl
  | @cons tag tags start outer hlabels _ ih =>
      rw [frameKinds_cons, ← hlabels.frame, ih, List.filterMap_cons]
      cases tag.closing.frameKind? <;> rfl

theorem insideAttribute_iff (h : Labelled builtins tags starts) :
    insideAttribute builtins starts = true ↔ 0 < tags.countP (·.closing == .leaveAttribute) := by
  induction h with
  | nil => simp [insideAttribute]
  | @cons tag tags start outer hlabels _ ih =>
      rw [List.countP_cons]
      by_cases hattribute : builtins.tag start.1 = .attribute
      · simp [insideAttribute, hattribute, hlabels.isAttribute.mpr hattribute]
      · have hnot : tag.closing ≠ .leaveAttribute := fun heq => hattribute (hlabels.isAttribute.mp heq)
        simpa [insideAttribute, hattribute, hnot] using ih

end Labelled

theorem depth_le_of_mem_openChoices {tags : List OpenTag} {starts : List (String × Attributes)} {choice : OpenChoice}
    (h : choice ∈ openChoices tags starts) : choice.depth ≤ (owners tags).length := by
  induction tags generalizing starts with
  | nil => cases h
  | cons tag tags ih =>
      cases starts with
      | nil => cases h
      | cons start starts =>
          have hle : (owners tags).length ≤ (owners (tag :: tags)).length := by
            rw [owners_cons]
            split <;> simp
          unfold openChoices at h
          dsimp only at h
          split at h
          · rcases List.mem_cons.mp h with rfl | h
            · exact hle
            · exact Nat.le_trans (ih h) hle
          · exact Nat.le_trans (ih h) hle

/-- The innermost open choice with the frames of now is the choice that a reader finds. -/
theorem Labelled.head?_openChoices {builtins : Builtins} {tags : List OpenTag} {starts : List (String × Attributes)}
    (h : Labelled builtins tags starts) :
    (openChoices tags starts).head?.filter (fun choice => choice.depth = (owners tags).length) =
      (directChoice? builtins starts).map fun attributes =>
        ⟨(owners tags).length, attributes.get? "minOccurs", attributes.get? "maxOccurs"⟩ := by
  induction h with
  | nil => rfl
  | @cons tag tags start outer hlabels _ ih =>
      unfold openChoices directChoice?
      dsimp only
      rw [owners_cons, Closing.ownsFrame_eq, hlabels.frame]
      by_cases hchoice : builtins.tag start.1 = .choice
      · have hclosing := hlabels.isChoice.mpr hchoice
        have hframe : frameOf? builtins start outer = none := by
          rw [← hlabels.frame, hclosing]
          rfl
        simp [hchoice, hclosing, hframe]
      · have hclosing : tag.closing ≠ .closeChoice := fun heq => hchoice (hlabels.isChoice.mp heq)
        rw [if_neg hclosing, if_neg hchoice]
        split
        · -- The frames of the choices around are fewer than those that are open now.
          rw [Option.map_none, Option.filter_eq_none_iff]
          intro choice hfirst
          have hle := depth_le_of_mem_openChoices (List.mem_of_head? hfirst)
          simp
          omega
        · exact ih

namespace Builder

variable {b b' : Builder} {closing : Closing} {tag : Tag} {name : String} {attributes : Attributes}
  {starts : List (String × Attributes)} {events : List Event} {prefixOverride : Option String}

/-- The kinds of the frames that are open. -/
def kinds (b : Builder) : List FrameKind := b.frames.map (·.shape.kind)

theorem atTopLevel_iff (b : Builder) : b.atTopLevel = true ↔ b.kinds.length = 1 := by
  simp [atTopLevel, kinds]

theorem head?_kinds_eq_node_iff (b : Builder) : b.kinds.head? = some .node ↔ b.currentNode?.isSome = true := by
  unfold currentNode? kinds
  cases b.frames with
  | nil => simp
  | cons frame rest =>
      cases frame with
      | node id => by_cases hroot : id = Model.root <;> simp [hroot, Frame.shape, FrameShape.kind]
      | simpleType d | attributeGroup d => simp [Frame.shape, FrameShape.kind]

theorem head?_kinds_eq_simpleType_iff (b : Builder) : b.kinds.head? = some .simpleType ↔
    (match b.frames with
      | .simpleType _ :: _ => true
      | _ => false) = true := by
  unfold kinds
  cases b.frames with
  | nil => simp
  | cons frame rest =>
      cases frame with
      | node id => by_cases hroot : id = Model.root <;> simp [hroot, Frame.shape, FrameShape.kind]
      | simpleType d | attributeGroup d => simp [Frame.shape, FrameShape.kind]

theorem frameKind?_of_startSimpleType (h : b.startSimpleType name attributes = .ok (b', closing)) :
    closing.frameKind? = Tag.simpleType.frameKind? attributes b.kinds (decide (0 < b.attributeDepth)) ∧
      closing ≠ .leaveAttribute := by
  unfold startSimpleType at h
  extract_lets insideSimpleType insideAttributeGroup owner at h
  have hinside : b.kinds.head? = some .simpleType ↔ insideSimpleType = true := b.head?_kinds_eq_simpleType_iff
  have hcurrent := b.head?_kinds_eq_node_iff
  split at h
  · rename_i hskip
    cases h
    have hskip' : (decide (0 < b.attributeDepth) || decide (b.kinds.head? = some .simpleType)) = true := by
      simpa [hinside] using hskip
    simp [Tag.frameKind?, hskip', Closing.frameKind?]
  · rename_i hkeep
    have hkeep' : (decide (0 < b.attributeDepth) || decide (b.kinds.head? = some .simpleType)) = false := by
      simpa [hinside] using hkeep
    have howner : owner.isSome = decide (b.kinds.head? = some .node) := by
      simp [owner, hcurrent]
    have hnamed : ((attributes.get? "name").isSome || decide (b.kinds.head? = some .node)) =
        ((attributes.get? "name").or owner).isSome := by
      rw [← howner, Option.isSome_or]
    simp only [Tag.frameKind?, hkeep', hnamed]
    split at h
    · rename_i typeName hname
      cases h
      simp [hname, Closing.frameKind?]
    · rename_i hname
      split at h
      · cases h
        simp [hname, Closing.frameKind?]
      · cases h

theorem exists_role_of_startGroup (h : b.startGroup name attributes = .ok (b', closing)) :
    ∃ role, closing = .popGroup role := by
  unfold startGroup at h
  split at h
  · split at h
    · cases h
    · cases h
      exact ⟨_, rfl⟩
  · obtain ⟨bounds, -, h⟩ := exists_of_bind_eq_ok h
    cases h
    exact ⟨_, rfl⟩
  · cases h
    exact ⟨_, rfl⟩

theorem closing_of_startAttribute (h : b.startAttribute name attributes = .ok (b', closing)) :
    closing = .leaveAttribute := by
  unfold startAttribute at h
  dsimp only at h
  split at h
  · cases h
    rfl
  · cases h
    rfl
  · cases h

theorem closing_of_startAttributeGroup (h : b.startAttributeGroup name attributes = .ok (b', closing)) :
    closing = if (attributes.get? "name").isSome then .popAttributeGroup else .nothing := by
  unfold startAttributeGroup at h
  split at h
  · rename_i hname
    cases h
    simp [hname]
  · rename_i hname _
    split at h
    · cases h
    · cases h
      simp [hname]
  · rename_i hname _
    split at h
    all_goals
      cases h
      simp [hname]

/-- The closing that a start tag leaves takes off the frame that the start tag has opened. -/
theorem frameKind?_of_startConstruct (h : b.startConstruct tag name attributes = .ok (b', closing)) :
    closing.frameKind? = tag.frameKind? attributes b.kinds (decide (0 < b.attributeDepth)) ∧
      (closing = .leaveAttribute ↔ tag = .attribute) := by
  have hfacet : (b.startFacet tag name attributes).map (·, Closing.nothing) = .ok (b', closing) → closing = .nothing := by
    intro hfacet
    obtain ⟨changed, -, heq⟩ := exists_of_map_eq_ok hfacet
    exact (congrArg Prod.snd heq).symm
  unfold startConstruct at h
  cases tag with
  | schema => cases h
  | element =>
      obtain ⟨bounds, -, -, rfl⟩ := exists_of_startNode h
      simp [Tag.frameKind?, Closing.frameKind?]
  | complexType =>
      dsimp only at h
      split at h
      · rename_i htop
        obtain ⟨bounds, -, -, rfl⟩ := exists_of_startNode h
        simp [Tag.frameKind?, Closing.frameKind?, b.atTopLevel_iff.mp htop]
      · rename_i htop
        cases h
        simp [Tag.frameKind?, Closing.frameKind?, mt b.atTopLevel_iff.mpr htop]
  | any =>
      obtain ⟨bounds, -, h⟩ := exists_of_bind_eq_ok h
      cases h
      simp [Tag.frameKind?, Closing.frameKind?]
  | group =>
      obtain ⟨role, rfl⟩ := exists_role_of_startGroup h
      simp [Tag.frameKind?, Closing.frameKind?]
  | «attribute» =>
      obtain rfl := closing_of_startAttribute h
      simp [Tag.frameKind?, Closing.frameKind?]
  | attributeGroup =>
      obtain rfl := closing_of_startAttributeGroup h
      by_cases hname : (attributes.get? "name").isSome = true <;> simp [Tag.frameKind?, hname, Closing.frameKind?]
  | simpleType =>
      obtain ⟨hframe, hne⟩ := frameKind?_of_startSimpleType h
      simp [hframe, hne]
  | enumeration | minInclusive | maxInclusive | whiteSpace =>
      obtain rfl := hfacet h
      simp [Tag.frameKind?, Closing.frameKind?]
  | documentation =>
      dsimp only at h
      split at h
      all_goals
        cases h
        simp [Tag.frameKind?, Closing.frameKind?]
  | _ =>
      cases h
      simp [Tag.frameKind?, Closing.frameKind?]

/-- The frames of a builder are those of the start tags that are open. -/
theorem frameKinds_eq_kinds (hdisciplined : b.outline.Disciplined starts) (h : Labelled b.builtins b.openTags starts) :
    frameKinds b.builtins starts = b.kinds := by
  have hframes : b.openTags.filterMap (·.closing.frameKind?) = b.outline.frames.map FrameShape.kind :=
    frameKind?_of_owned hdisciplined.frames
  rw [h.frameKinds_eq, hframes]
  simp [kinds, outline]

theorem labels_of_startConstruct (hdisciplined : b.outline.Disciplined starts) (h : Labelled b.builtins b.openTags starts)
    (hbelow : starts ≠ []) (hstart : b.startConstruct (b.builtins.tag name) name attributes = .ok (b', closing)) :
    Labels b.builtins closing (name, attributes) starts := by
  obtain ⟨hframe, hattribute⟩ := frameKind?_of_startConstruct hstart
  have hdepth : b.attributeDepth = b.openTags.countP (·.closing == .leaveAttribute) :=
    hdisciplined.depth .leaveAttribute rfl
  have hinside : insideAttribute b.builtins starts = decide (0 < b.attributeDepth) := by
    rw [hdepth, Bool.eq_iff_iff, decide_eq_true_iff]
    exact h.insideAttribute_iff
  refine ⟨?_, hattribute, (opens_startConstruct hstart).closing_iff⟩
  simp [frameOf?, frameAmong?, hbelow, frameKinds_eq_kinds hdisciplined h, hinside, hframe]

theorem labels_root (hname : localPart name = "schema") (builtins : Builtins) :
    Labels builtins .closeSchema (name, attributes) [] := by
  rcases Outline.tag_of_schema hname builtins with htag | htag <;> exact ⟨rfl, by simp [htag], by simp [htag]⟩

/-- Below the root a start tag finds the root open. -/
theorem openTags_ne_nil (hprogress : b.outline.Progress events) (hseen : b.seenRoot = true)
    (h : b.startTag name attributes = .ok b') : b.openTags ≠ [] := by
  cases hprogress with
  | before hnone => cases hseen.symm.trans hnone
  | inside _ _ _ hopen =>
      intro hnone
      simp [outline, hnone] at hopen
  | after _ hclosed =>
      have hclosed : b.closedRoot = true := hclosed
      simp [startTag, hseen, hclosed] at h

/-- The open tags of a builder are labelled with what their start tags say. -/
theorem labelled_of_feedAll (h : (start prefixOverride).feedAll events = .ok b) :
    Labelled b.builtins b.openTags (openStarts events) := by
  -- By the last event: a start tag adds a label, and an end tag takes off the innermost one.
  induction events using List.reverseRecOn generalizing b with
  | nil =>
      cases h
      exact .nil
  | append_singleton events e ih =>
      obtain ⟨before, hbefore, hlast⟩ := exists_of_feedAll_append h
      obtain ⟨last, hlast, hdone⟩ := exists_of_feedAll_cons hlast
      cases hdone
      have hlabelled := ih hbefore
      obtain ⟨hdisciplined, hprogress⟩ := (reads_of_feedAll hbefore).disciplined
      rw [openStarts_concat]
      cases e with
      | text content =>
          cases hlast
          have htags : (before.text content).openTags = before.openTags :=
            congrArg Outline.openTags (outline_text before content)
          have hbuiltins : (before.text content).builtins = before.builtins :=
            congrArg Outline.builtins (outline_text before content)
          rw [htags, hbuiltins]
          exact hlabelled
      | endTag name =>
          obtain ⟨closing, rest, hopen, hclose⟩ := exists_of_endTag hlast
          have hcloses := closes_close hclose
          have htags : b.openTags = rest := hcloses.openTags
          have hbuiltins : b.builtins = before.builtins := hcloses.builtins
          rw [hopen] at hlabelled
          rw [htags, hbuiltins]
          exact hlabelled.tail
      | startTag name attributes =>
          by_cases hseen : before.seenRoot = true
          · have hbelow : openStarts events ≠ [] :=
              mt hlabelled.eq_nil_iff.mpr (openTags_ne_nil hprogress hseen hlast)
            obtain ⟨opened, closing, hstart, rfl⟩ := exists_of_startTag hseen hlast
            have hbuiltins : opened.builtins = before.builtins := (opens_startConstruct hstart).builtins
            rw [builtins_withOpenTags, hbuiltins]
            exact .cons (labels_of_startConstruct hdisciplined hlabelled hbelow hstart) hlabelled
          · have hnone : before.outline.seenRoot = false := Bool.eq_false_iff.mpr hseen
            obtain ⟨-, -, hopen⟩ := hprogress.of_not_seen hnone
            have hopen : before.openTags = [] := hopen
            have hroot : before.startRoot name attributes = .ok b := by
              simpa [feed, startTag, hseen] using hlast
            unfold startRoot at hroot
            split at hroot
            · rename_i hname
              cases hroot
              rw [hlabelled.eq_nil_iff.mp hopen, hopen]
              exact .cons (labels_root hname _) .nil
            · cases hroot

end Builder

/-! ### Bounds -/

/-- The least number of occurrences that an attribute says. -/
def leastOccurs? : Option String → Option Nat
  | none => some 1
  | some value => readWhole? (Nat.pow 2 32) (Text.trimmed value.toList)

/-- The greatest number of occurrences that an attribute says. -/
def mostOccurs? : Option String → Option MaxOccurs
  | none => some (.count 1)
  | some value =>
    if Text.trim value = "unbounded" then some .unbounded
    else (readWhole? (Nat.pow 2 32) (Text.trimmed value.toList)).map .count

/-- The bounds that a start tag says, or else those of the choice around it. -/
structure Bounds (attributes : Attributes) (choice : Option Attributes) (bounds : Nat × MaxOccurs) : Prop where
  least : leastOccurs? ((attributes.get? "minOccurs").or (choice.bind (·.get? "minOccurs"))) = some bounds.1
  most : mostOccurs? ((attributes.get? "maxOccurs").or (choice.bind (·.get? "maxOccurs"))) = some bounds.2

namespace Builder

variable {b b' : Builder} {closing : Closing} {tag : Tag} {name : String} {attributes : Attributes}
  {starts : List (String × Attributes)} {before after : List Event} {prefixOverride : Option String}

/-- What a tag and an open choice say, in the way in which the builder reads it. -/
theorem occurs_spec {bounds : Nat × MaxOccurs} (h : b.occurs name attributes = .ok bounds) :
    let choice := b.choices.head?.filter (·.depth = b.frames.length)
    leastOccurs? ((attributes.get? "minOccurs").or (choice.bind (·.minimum))) = some bounds.1 ∧
      mostOccurs? ((attributes.get? "maxOccurs").or (choice.bind (·.maximum))) = some bounds.2 := by
  intro choice
  unfold occurs at h
  extract_lets _ minimum maximum finish at h
  -- The greatest number is read last, in the same way whatever the least one is.
  have hfinish : ∀ least, finish least = .ok bounds → some least = some bounds.1 ∧ mostOccurs? maximum = some bounds.2 := by
    intro least h
    dsimp only [finish] at h
    split at h
    · rename_i hnone
      cases h
      simp [Option.map_eq_none_iff.mp hnone, mostOccurs?]
    · rename_i hword
      cases h
      obtain ⟨value, hvalue, htrim⟩ := Option.map_eq_some_iff.mp hword
      simp [hvalue, mostOccurs?, htrim]
    · rename_i trimmed hother hword
      obtain ⟨value, hvalue, rfl⟩ := Option.map_eq_some_iff.mp hword
      split at h
      · rename_i n hread
        cases h
        have hread' : readWhole? (Nat.pow 2 32) (Text.trimmed value.toList) = some n := by simpa [Text.trim] using hread
        have hword' : Text.trim value ≠ "unbounded" := hother
        simp [hvalue, mostOccurs?, hword', hread']
      · cases h
  change leastOccurs? minimum = some bounds.1 ∧ mostOccurs? maximum = some bounds.2
  clear_value finish minimum
  split at h
  · exact hfinish 1 h
  · split at h
    · rename_i n hread
      rw [leastOccurs?, hread]
      exact hfinish n h
    · cases h

/-- The choice that the builder finds is the one that a reader of the open tags finds. -/
theorem bounds_of_occurs (hdisciplined : b.outline.Disciplined starts) (h : Labelled b.builtins b.openTags starts)
    {bounds : Nat × MaxOccurs} (hoccurs : b.occurs name attributes = .ok bounds) :
    Bounds attributes (directChoice? b.builtins starts) bounds := by
  have hchoices : b.choices = openChoices b.openTags starts := hdisciplined.choices
  have hframes : b.frames.length = (owners b.openTags).length := by
    have hcount : (owners b.openTags).length = b.outline.frames.length := hdisciplined.frames.length_eq
    rw [hcount]
    simp [outline]
  have hspec := occurs_spec hoccurs
  rw [hchoices, hframes, h.head?_openChoices] at hspec
  obtain ⟨hleast, hmost⟩ := hspec
  cases hchoice : directChoice? b.builtins starts with
  | none =>
      rw [hchoice] at hleast hmost
      exact ⟨hleast, hmost⟩
  | some choice =>
      rw [hchoice] at hleast hmost
      exact ⟨hleast, hmost⟩

end Builder

/-! ### Particles -/

/-- The kind of node with bounds that a start tag adds, by the frames around it. A group with bounds is a reference to one,
and stands below the top level. -/
def Tag.particle? (tag : Tag) (attributes : Attributes) (around : List FrameKind) : Option NodeKind :=
  match tag with
  | .element => some .element
  | .any => some .wildcard
  | .group => if (attributes.get? "ref").isSome && around.length ≠ 1 then some .groupRef else none
  | .complexType => if around.length = 1 then some .complexType else none
  | _ => none

namespace Builder

variable {b b' opened last : Builder} {closing : Closing} {tag : Tag} {name : String} {attributes : Attributes}
  {before after : List Event} {prefixOverride : Option String}

/-- A particle is added with its bounds. -/
theorem exists_of_particle {kind : NodeKind} (hparticle : tag.particle? attributes b.kinds = some kind)
    (h : b.startConstruct tag name attributes = .ok (opened, closing)) :
    ∃ (bounds : Nat × MaxOccurs) (b₀ : Builder) (n : Node), b.occurs name attributes = .ok bounds ∧
      b₀.outline = b.outline ∧ opened = b₀.pushNode (withOccurs bounds n) ∧ n.kind = kind ∧ n.children = [] := by
  have hnode : ∀ kind, b.startNode kind name attributes = .ok (opened, closing) →
      ∃ (bounds : Nat × MaxOccurs) (b₀ : Builder) (n : Node), b.occurs name attributes = .ok bounds ∧
        b₀.outline = b.outline ∧ opened = b₀.pushNode (withOccurs bounds n) ∧ n.kind = kind ∧ n.children = [] := by
    intro kind h
    obtain ⟨bounds, hoccurs, rfl, -⟩ := exists_of_startNode h
    obtain ⟨hkind, hchildren, -⟩ := declaredNode_fields b kind bounds attributes
    exact ⟨bounds, _, _, hoccurs, outline_noteSubstitution b attributes, rfl, hkind, hchildren⟩
  cases tag with
  | element =>
      cases hparticle
      exact hnode .element h
  | complexType =>
      obtain ⟨htop, hkind⟩ := Option.ite_none_right_eq_some.mp hparticle
      cases hkind
      refine hnode .complexType ?_
      simpa [startConstruct, b.atTopLevel_iff.mpr htop] using h
  | any =>
      cases hparticle
      obtain ⟨bounds, hoccurs, h⟩ := exists_of_bind_eq_ok h
      cases h
      exact ⟨bounds, b, _, hoccurs, rfl, rfl, rfl, rfl⟩
  | group =>
      obtain ⟨hreference, hkind⟩ := Option.ite_none_right_eq_some.mp hparticle
      cases hkind
      obtain ⟨hreference, hbelow⟩ := (Bool.and_eq_true _ _).mp hreference
      obtain ⟨reference, hreference⟩ := Option.isSome_iff_exists.mp hreference
      have htop : b.atTopLevel = false := by
        rw [Bool.eq_false_iff]
        exact fun htop => of_decide_eq_true hbelow (b.atTopLevel_iff.mp htop)
      have h : b.startGroup name attributes = .ok (opened, closing) := h
      simp only [startGroup, htop, hreference, Option.map_some] at h
      obtain ⟨bounds, hoccurs, h⟩ := exists_of_bind_eq_ok h
      cases h
      exact ⟨bounds, b, _, hoccurs, rfl, rfl, rfl, rfl⟩
  | _ => cases hparticle

/-- **How often a particle occurs.** An element, a wildcard, a reference to a group or a type at the top level has the bounds
that its start tag says. Where this says nothing, the bounds are those of the innermost open choice if nothing inside of
this choice has opened another frame, and else the particle comes once. The least and the greatest number are found apart
from each other. -/
theorem bounds_of_directChoice {kind : NodeKind}
    (h : (start prefixOverride).feedAll (before ++ .startTag name attributes :: after) = .ok last)
    (hparticle : (last.builtins.tag name).particle? attributes (frameKinds last.builtins (openStarts before)) = some kind) :
    ∃ b, (start prefixOverride).feedAll before = .ok b ∧ last.model.Holds b.model.nextId ∧
      (last.model.node b.model.nextId).kind = kind ∧
      Bounds attributes (directChoice? last.builtins (openStarts before))
        ((last.model.node b.model.nextId).minOccurs, (last.model.node b.model.nextId).maxOccurs) := by
  have hknown : last.builtins.tag name ≠ .schema ∧ last.builtins.tag name ≠ .other := by
    constructor <;> (intro htag; rw [htag] at hparticle; cases hparticle)
  obtain ⟨b, opened, closing, hbefore, hstarted⟩ := exists_started h hknown.1 hknown.2
  have hdisciplined := (reads_of_feedAll hbefore).disciplined.1
  have hlabelled := labelled_of_feedAll hbefore
  rw [hstarted.builtins, frameKinds_eq_kinds hdisciplined hlabelled] at hparticle
  obtain ⟨bounds, b₀, n, hoccurs, hsame, rfl, hkind, hchildren⟩ := exists_of_particle hparticle hstarted.start
  obtain ⟨hheld, hbare⟩ := hstarted.bare_pushNode hsame (n := withOccurs bounds n) hchildren
  refine ⟨b, hbefore, hheld, (congrArg Node.kind hbare).trans hkind, ?_⟩
  have hmin : (last.model.node b.model.nextId).minOccurs = bounds.1 := congrArg Node.minOccurs hbare
  have hmax : (last.model.node b.model.nextId).maxOccurs = bounds.2 := congrArg Node.maxOccurs hbare
  rw [hmin, hmax, hstarted.builtins]
  exact bounds_of_occurs hdisciplined hlabelled hoccurs

/-- What comes before the two elements in a choice. -/
def choiceFront : List Event :=
  [.startTag "schema" ⟨[]⟩, .startTag "complexType" ⟨[("name", "Order")]⟩,
    .startTag "choice" ⟨[("maxOccurs", "unbounded")]⟩]

/-- An element with content of its own, up to the element inside of it. -/
def boxFront : List Event :=
  [.startTag "element" ⟨[("name", "box")]⟩, .startTag "complexType" ⟨[]⟩, .startTag "sequence" ⟨[]⟩]

/-- The box comes as often as the choice, and the part that it holds comes once. -/
theorem bounds_of_directChoice_box : ∃ last,
    (start none).feedAll (choiceFront ++ boxFront ++ [.startTag "element" ⟨[("name", "part")]⟩]) = .ok last ∧
      (∃ b, (start none).feedAll choiceFront = .ok b ∧ (last.model.node b.model.nextId).minOccurs = 1 ∧
        (last.model.node b.model.nextId).maxOccurs = .unbounded) ∧
      ∃ b, (start none).feedAll (choiceFront ++ boxFront) = .ok b ∧ (last.model.node b.model.nextId).minOccurs = 1 ∧
        (last.model.node b.model.nextId).maxOccurs = .count 1 := by
  obtain ⟨last, hread, hbuiltins⟩ : ∃ last,
      (start none).feedAll (choiceFront ++ boxFront ++ [.startTag "element" ⟨[("name", "part")]⟩]) = .ok last ∧
        last.builtins = ⟨""⟩ := ⟨_, rfl, rfl⟩
  have hbox : (last.builtins.tag "element").particle? ⟨[("name", "box")]⟩
      (frameKinds last.builtins (openStarts choiceFront)) = some .element := by
    rw [hbuiltins]
    decide +kernel
  have hpart : (last.builtins.tag "element").particle? ⟨[("name", "part")]⟩
      (frameKinds last.builtins (openStarts (choiceFront ++ boxFront))) = some .element := by
    rw [hbuiltins]
    decide +kernel
  have hinside : directChoice? last.builtins (openStarts choiceFront) = some ⟨[("maxOccurs", "unbounded")]⟩ := by
    rw [hbuiltins]
    decide +kernel
  have houtside : directChoice? last.builtins (openStarts (choiceFront ++ boxFront)) = none := by
    rw [hbuiltins]
    decide +kernel
  -- The same document, split at the box and not at the part.
  have hread' : (start none).feedAll (choiceFront ++ .startTag "element" ⟨[("name", "box")]⟩ ::
      (boxFront.tail ++ [.startTag "element" ⟨[("name", "part")]⟩])) = .ok last := hread
  obtain ⟨b₁, hbefore₁, -, -, hleast₁, hmost₁⟩ := bounds_of_directChoice hread' hbox
  obtain ⟨b₂, hbefore₂, -, -, hleast₂, hmost₂⟩ := bounds_of_directChoice hread hpart
  rw [hinside] at hleast₁ hmost₁
  rw [houtside] at hleast₂ hmost₂
  exact ⟨last, hread, ⟨b₁, hbefore₁, (Option.some.inj hleast₁).symm, (Option.some.inj hmost₁).symm⟩,
    b₂, hbefore₂, (Option.some.inj hleast₂).symm, (Option.some.inj hmost₂).symm⟩

end Builder

end SchemaBinding
