import Mathlib.Data.List.Forall2
import SchemaBinding.Proofs.Builder.Built

/-!
# `SchemaBinding.Proofs.Builder.Discipline`: the stacks of a builder follow the open tags

Closing a tag has to undo what opening it has done. For that the stacks of a builder have to match the tags that are
open, and `Outline.Disciplined` says how: each frame belongs to an open tag that owns one, of the kind which that tag
takes off; a depth is the number of the open tags that made it greater; and the open choices are those of the open
`choice` tags.

The lemmas of this module are one for each stack and what a start tag or an end tag does to it. Together they say that
tags keep the discipline (`Outline.Disciplined.opens`, `Outline.Disciplined.closes`, `Outline.Disciplined.root`).
-/

set_option autoImplicit false

namespace SchemaBinding

/-! ### The open tags -/

/-- The start tags that have no end tag yet, with the innermost first, after one more event. -/
def nextStarts (starts : List (String × Attributes)) : Event → List (String × Attributes)
  | .startTag name attributes => (name, attributes) :: starts
  | .text _ => starts
  | .endTag _ => starts.tail

/-- The start tags that have no end tag in a list of events, with the innermost first. -/
def openStarts (events : List Event) : List (String × Attributes) := events.foldl nextStarts []

theorem openStarts_concat (events : List Event) (e : Event) :
    openStarts (events ++ [e]) = nextStarts (openStarts events) e := by
  simp [openStarts]

namespace Closing

/-- Whether the closing of a tag takes a frame off. -/
def ownsFrame : Closing → Bool
  | closeSchema | popNode | popGroup _ | popSimpleType | popAttributeGroup => true
  | _ => false

theorem of_takes {closing : Closing} {kind : NodeKind} (h : closing.takes kind = true) :
    closing.ownsFrame = true ∧ closing.isLeave = false ∧ closing ≠ .closeChoice ∧ closing ≠ .closeSchema := by
  cases closing <;> simp_all [takes, ownsFrame, isLeave]

theorem of_isLeave {closing : Closing} (h : closing.isLeave = true) :
    closing.ownsFrame = false ∧ closing ≠ .closeChoice ∧ closing ≠ .closeSchema := by
  cases closing <;> simp_all [ownsFrame, isLeave]

end Closing

/-- The frame is of the kind that a closing takes off. -/
inductive Tree.Owned (t : Tree) : Closing → FrameShape → Prop where
  | root : Owned t .closeSchema (.node Model.root)
  | node {closing : Closing} {id : NodeId} (hroot : id ≠ Model.root) (hheld : id.index < t.size)
      (hkind : closing.takes (t.bare id).kind = true) : Owned t closing (.node id)
  | simpleType : Owned t .popSimpleType .simpleType
  | attributeGroup : Owned t .popAttributeGroup .attributeGroup

/-- A frame stays owned while nodes are added. -/
theorem Tree.Owned.mono {t t' : Tree} {closing : Closing} {f : FrameShape} (h : t.Owned closing f)
    (hsize : t.size ≤ t'.size) (hbare : ∀ id : NodeId, id.index < t.size → t'.bare id = t.bare id) :
    t'.Owned closing f := by
  cases h with
  | root => exact .root
  | node hroot hheld hkind => exact .node hroot (Nat.lt_of_lt_of_le hheld hsize) (by rwa [hbare _ hheld])
  | simpleType => exact .simpleType
  | attributeGroup => exact .attributeGroup

/-- The closings of those tags that own a frame. -/
def owners (tags : List OpenTag) : List Closing := (tags.map (·.closing)).filter Closing.ownsFrame

theorem owners_cons (tag : OpenTag) (tags : List OpenTag) :
    owners (tag :: tags) = if tag.closing.ownsFrame then tag.closing :: owners tags else owners tags := by
  simp [owners, List.filter_cons]

/-- The choices of open tags, given what their start tags said. -/
def openChoices : List OpenTag → List (String × Attributes) → List OpenChoice
  | tag :: tags, (_, attributes) :: starts =>
    let outer := openChoices tags starts
    if tag.closing = .closeChoice then
      ⟨(owners tags).length, attributes.get? "minOccurs", attributes.get? "maxOccurs"⟩ :: outer
    else outer
  | _, _ => []

namespace Outline

/-- The stacks match the tags that are open. -/
structure Disciplined (o : Outline) (starts : List (String × Attributes)) : Prop where
  tags : o.openTags.map (·.name) = starts.map (·.1)
  /-- The frames belong to the tags that own one, in this order. -/
  frames : List.Forall₂ o.Owned (owners o.openTags) o.frames
  depth : ∀ closing : Closing, closing.isLeave = true → o.depth closing = o.openTags.countP (·.closing == closing)
  choices : o.choices = openChoices o.openTags starts
  choice : ∀ tag ∈ o.openTags, tag.closing = .closeChoice ↔ o.builtins.tag tag.name = .choice

/-! ### What a start tag does to each stack -/

section steps

variable {o o' : Outline} {tag : Tag} {name : String} {attributes : Attributes} {closing : Closing}

theorem Opens.openTags (h : o.Opens tag attributes closing o') : o'.openTags = o.openTags := by
  cases h <;> rfl

theorem Opens.builtins (h : o.Opens tag attributes closing o') : o'.builtins = o.builtins := by
  cases h <;> rfl

theorem Opens.closing_iff (h : o.Opens tag attributes closing o') : closing = .closeChoice ↔ tag = .choice := by
  cases h with
  | skip htag | simpleType htag | attributeGroup htag => simpa using htag
  | node htag hkind _ _ => simpa [(Closing.of_takes hkind).2.2.1] using htag
  | choice htag => simpa using htag
  | enter htag hleave => simpa [(Closing.of_isLeave hleave).2.1] using htag

theorem Opens.closing_ne (h : o.Opens tag attributes closing o') : closing ≠ .closeSchema := by
  cases h with
  | skip | simpleType | attributeGroup | choice => simp
  | node _ hkind _ _ => exact (Closing.of_takes hkind).2.2.2
  | enter _ hleave => exact (Closing.of_isLeave hleave).2.2

theorem Opens.depth (h : o.Opens tag attributes closing o') {c : Closing} (hc : c.isLeave = true) :
    o'.depth c = o.depth c + if closing == c then 1 else 0 := by
  cases h with
  | skip | simpleType | attributeGroup | choice => cases c <;> first | rfl | cases hc
  | node _ hkind _ _ =>
      have hne : closing ≠ c := by
        rintro rfl
        cases hc.symm.trans (Closing.of_takes hkind).2.1
      simp [hne]
  | enter =>
      by_cases hcc : c = closing
      · simp [Outline.enter, hcc]
      · simp [Outline.enter, hcc, Ne.symm hcc]

theorem Opens.choices (h : o.Opens tag attributes closing o') :
    o'.choices = if closing = .closeChoice then
      ⟨o.frames.length, attributes.get? "minOccurs", attributes.get? "maxOccurs"⟩ :: o.choices else o.choices := by
  cases h with
  | skip | simpleType | attributeGroup | choice => rfl
  | node _ hkind _ _ => exact (if_neg (Closing.of_takes hkind).2.2.1).symm
  | enter _ hleave => exact (if_neg (Closing.of_isLeave hleave).2.1).symm

theorem Opens.size_bare (h : o.Opens tag attributes closing o') :
    o.size ≤ o'.size ∧ ∀ id : NodeId, id.index < o.size → o'.bare id = o.bare id := by
  cases h with
  | node =>
      refine ⟨Nat.le_succ _, fun id hid => if_neg ?_⟩
      rintro rfl
      exact Nat.lt_irrefl _ hid
  | _ => exact ⟨Nat.le_refl _, fun _ _ => rfl⟩

theorem Opens.frames (h : o.Opens tag attributes closing o') (hsize : 0 < o.size)
    (hframes : List.Forall₂ o.Owned (owners o.openTags) o.frames) :
    List.Forall₂ o'.Owned (owners (⟨name, closing⟩ :: o.openTags)) o'.frames := by
  have hbelow : List.Forall₂ o'.Owned (owners o.openTags) o.frames :=
    hframes.imp fun _ _ howned => howned.mono h.size_bare.1 h.size_bare.2
  rw [owners_cons]
  cases h with
  | skip | choice => exact hbelow
  | node _ hkind _ _ =>
      rw [if_pos (Closing.of_takes hkind).1]
      refine .cons (.node ?_ (Nat.lt_succ_self _) ?_) hbelow
      · exact fun heq => Nat.ne_of_gt hsize (congrArg NodeId.index heq)
      · -- The new node is of the kind that its closing takes.
        change closing.takes (if _ then Node.bare _ else o.bare _).kind = true
        rwa [if_pos rfl]
  | simpleType => exact .cons .simpleType hbelow
  | attributeGroup => exact .cons .attributeGroup hbelow
  | enter _ hleave =>
      rw [if_neg (by simp [(Closing.of_isLeave hleave).1])]
      exact hbelow

/-! ### What an end tag does to each stack -/

theorem Closes.openTags (h : o.Closes closing o') : o'.openTags = o.openTags := by
  cases h <;> rfl

theorem Closes.builtins (h : o.Closes closing o') : o'.builtins = o.builtins := by
  cases h <;> rfl

theorem Closes.size_bare (h : o.Closes closing o') : o'.size = o.size ∧ o'.bare = o.bare := by
  cases h with
  | node | reference => exact ⟨Tree.size_attach _ _, Tree.bare_attach _ _⟩
  | _ => exact ⟨rfl, rfl⟩

theorem Closes.frames (h : o.Closes closing o') :
    o'.frames = if closing.ownsFrame then o.frames.tail else o.frames := by
  cases h with
  | node htop | reference htop =>
      rw [htop]
      exact Tree.frames_attach _ _
  | definition htop | ignored htop | simpleType htop | attributeGroup htop =>
      rw [htop]
      rfl
  | leave hleave => rw [if_neg (by simp [(Closing.of_isLeave hleave).1])]; rfl
  | nothing | root | choice => rfl

theorem Closes.depth (h : o.Closes closing o') {c : Closing} (hc : c.isLeave = true) :
    o'.depth c = o.depth c - if closing == c then 1 else 0 := by
  cases h with
  | leave =>
      by_cases hcc : c = closing
      · simp [Outline.leave, hcc]
      · simp [Outline.leave, hcc, Ne.symm hcc]
  | _ => cases c <;> first | rfl | cases hc

theorem Closes.choices (h : o.Closes closing o') :
    o'.choices = if closing = .closeChoice then o.choices.tail else o.choices := by
  cases h with
  | leave hleave => exact (if_neg (Closing.of_isLeave hleave).2.1).symm
  | _ => rfl

/-! ### What an event does to all of them -/

theorem Disciplined.opens {starts : List (String × Attributes)} (h : o.Disciplined starts) (hsize : 0 < o.size)
    (hopens : o.Opens (o.builtins.tag name) attributes closing o') :
    { o' with openTags := ⟨name, closing⟩ :: o'.openTags }.Disciplined ((name, attributes) :: starts) := by
  have htags := hopens.openTags
  refine ⟨?tags, ?frames, fun c hc => ?depth, ?choices, fun tag htag => ?choice⟩
  case tags => simp [htags, h.tags]
  case frames =>
    rw [htags]
    exact hopens.frames hsize h.frames
  case depth => simp [htags, hopens.depth hc, h.depth c hc, List.countP_cons]
  case choices =>
    -- The frames around a choice are those of the tags around it.
    have hcount : o.frames.length = (owners o.openTags).length := h.frames.length_eq.symm
    simp only [openChoices, htags, hopens.choices, h.choices, hcount]
  case choice =>
    rw [hopens.builtins]
    rcases List.mem_cons.mp htag with rfl | htag
    · exact hopens.closing_iff
    · exact h.choice tag (htags ▸ htag)

/-- The tag that is ended next owns the frame on top, if it owns one. -/
theorem Disciplined.owned {starts : List (String × Attributes)} {tag : OpenTag} {tags : List OpenTag}
    (h : o.Disciplined starts) (htop : o.openTags = tag :: tags) (howns : tag.closing.ownsFrame = true)
    {f : FrameShape} {rest : List FrameShape} (hframes : o.frames = f :: rest) : o.Owned tag.closing f := by
  have hmatch := h.frames
  rw [htop, owners_cons, if_pos howns, hframes] at hmatch
  exact (List.forall₂_cons.mp hmatch).1

/-- The frames that are left belong to the tags that are left. -/
theorem Closes.owned_frames {tag : OpenTag} {rest : List OpenTag}
    (h : Closes { o with openTags := rest } tag.closing o')
    (hframes : List.Forall₂ o.Owned (owners (tag :: rest)) o.frames) :
    List.Forall₂ o'.Owned (owners rest) o'.frames := by
  obtain ⟨hsize, hbare⟩ := h.size_bare
  have howned : ∀ c f, o.Owned c f → o'.Owned c f := fun c f howned =>
    howned.mono (Nat.le_of_eq hsize.symm) fun id _ => congrFun hbare id
  rw [h.frames]
  rw [owners_cons] at hframes
  by_cases howns : tag.closing.ownsFrame = true
  · rw [if_pos howns] at hframes ⊢
    obtain ⟨f, frames, -, hrest, heq⟩ := List.forall₂_cons_left_iff.mp hframes
    rw [heq]
    exact hrest.imp howned
  · rw [if_neg howns] at hframes ⊢
    exact hframes.imp howned

theorem Disciplined.closes {starts : List (String × Attributes)} {tag : OpenTag} {rest : List OpenTag}
    (h : o.Disciplined starts) (htop : o.openTags = tag :: rest)
    (hcloses : Closes { o with openTags := rest } tag.closing o') : o'.Disciplined starts.tail := by
  have htags : o'.openTags = rest := hcloses.openTags
  cases starts with
  | nil =>
      -- An open tag has been started.
      simpa [htop] using h.tags
  | cons start starts =>
      refine ⟨?tags, ?frames, fun c hc => ?depth, ?choices, fun t ht => ?choice⟩
      case tags =>
        have hnames := h.tags
        rw [htop] at hnames
        rw [htags]
        exact (List.cons_eq_cons.mp hnames).2
      case frames =>
        rw [htags]
        exact hcloses.owned_frames (htop ▸ h.frames)
      case depth =>
        have hdepth := h.depth c hc
        rw [htop, List.countP_cons] at hdepth
        rw [htags, hcloses.depth hc]
        change o.depth c - _ = _
        rw [hdepth, Nat.add_sub_cancel]
      case choices =>
        have hchoices := h.choices
        rw [htop, openChoices] at hchoices
        rw [htags, hcloses.choices]
        change (if _ then o.choices.tail else o.choices) = _
        rw [hchoices]
        split <;> rfl
      case choice =>
        rw [hcloses.builtins]
        exact h.choice t (by rw [htop]; exact List.mem_cons_of_mem _ (htags ▸ ht))

/-- The name of the root is that of a schema or of nothing, whatever the prefix of the schema namespace is. -/
theorem tag_of_schema {name : String} (h : localPart name = "schema") (builtins : Builtins) :
    builtins.tag name = .schema ∨ builtins.tag name = .other := by
  unfold Builtins.tag Builtins.localName?
  by_cases hbound : (PrefixedName.ofString name).nsPrefix = builtins.nsPrefix
  · have hlocal : (PrefixedName.ofString name).localPart = "schema" := h
    simp [hbound, hlocal, Tag.ofLocalName]
  · simp [hbound]

theorem Disciplined.root {starts : List (String × Attributes)} (h : o.Disciplined starts) (hopen : o.openTags = [])
    (hname : localPart name = "schema") (builtins : Builtins) :
    { o with
      toTree := o.pushFrame (.node Model.root)
      builtins := builtins
      openTags := ⟨name, .closeSchema⟩ :: o.openTags
      seenRoot := true }.Disciplined ((name, attributes) :: starts) := by
  refine ⟨?_, ?_, fun c hc => ?_, h.choices, fun tag htag => ?_⟩
  · exact congrArg (name :: ·) h.tags
  · exact .cons .root (h.frames.imp fun _ _ howned => howned.mono (Nat.le_refl _) fun _ _ => rfl)
  · have hne : Closing.closeSchema ≠ c := fun heq => (Closing.of_isLeave hc).2.2 heq.symm
    simpa [List.countP_cons, hne] using h.depth c hc
  · -- No other tag has been read with the prefix that was assumed before.
    rw [hopen, List.mem_singleton] at htag
    rcases tag_of_schema hname builtins with hroot | hroot <;> simp [htag, hroot]

theorem Disciplined.start : (Builder.start none).outline.Disciplined [] where
  tags := rfl
  frames := .nil
  depth c _ := by cases c <;> rfl
  choices := rfl
  choice _ h := absurd h List.not_mem_nil

end steps

end Outline

end SchemaBinding
