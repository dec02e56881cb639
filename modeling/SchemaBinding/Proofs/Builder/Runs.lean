import SchemaBinding.Proofs.Builder.OpenTags

/-!
# `SchemaBinding.Proofs.Builder.Runs`: reading whole tags

A reading of balanced tags follows the tree of the tags (`Builder.Feeds`): a start tag, what is inside of it, and the end
tag. It leaves the open tags as they were, and other open tags make no difference (`Builder.Feeds.spans`).

`Builder.Runs` says what becomes of each tag on the way: what the start tag opens is closed with the closing that the start
tag has left. Below the root every reading of whole tags is such a run (`Builder.Feeds.runs`), so what holds of it can be
shown by induction on the tree.

After a run the stacks are what they were before (`Builder.Runs.returns`). On the way nodes may have been added, and those
that were there are still the same, but for what later tags fill in.
-/

set_option autoImplicit false

namespace SchemaBinding

namespace Builder

variable {b b' : Builder} {name : String} {attributes : Attributes} {events : List Event}

/-! ### Reading in parts -/

theorem feedAll_append (b : Builder) (first second : List Event) :
    b.feedAll (first ++ second) = (b.feedAll first).bind fun after => after.feedAll second :=
  List.foldlM_append

theorem exists_of_feedAll_append {first second : List Event} (h : b.feedAll (first ++ second) = .ok b') :
    ∃ after, b.feedAll first = .ok after ∧ after.feedAll second = .ok b' :=
  exists_of_bind_eq_ok ((feedAll_append b first second).symm.trans h)

theorem exists_of_feedAll_cons {e : Event} (h : b.feedAll (e :: events) = .ok b') :
    ∃ after, b.feed e = .ok after ∧ after.feedAll events = .ok b' :=
  exists_of_bind_eq_ok h

theorem feedAll_append_of_ok {after : Builder} {first : List Event} (h : b.feedAll first = .ok after)
    (second : List Event) : b.feedAll (first ++ second) = after.feedAll second := by
  rw [feedAll_append, h]
  rfl

theorem feedAll_cons_of_ok {after : Builder} {e : Event} (h : b.feed e = .ok after) (events : List Event) :
    b.feedAll (e :: events) = after.feedAll events := by
  show (b.feed e).bind _ = _
  rw [h]
  rfl

/-! ### The prefix is settled once the root is seen -/

theorem builtins_of_feed {e : Event} (h : b.feed e = .ok b') (hseen : b.seenRoot = true) :
    b'.builtins = b.builtins ∧ b'.seenRoot = true := by
  show b'.outline.builtins = b.outline.builtins ∧ b'.outline.seenRoot = true
  have hseen : b.outline.seenRoot = true := hseen
  have hnext := next_of_feed h
  generalize b.outline = o, b'.outline = o' at hnext hseen
  cases hnext with
  | text => exact ⟨rfl, hseen⟩
  | root hnone => cases hseen.symm.trans hnone
  | start _ _ hopens => exact ⟨hopens.builtins, hopens.seenRoot.1.trans hseen⟩
  | close _ hcloses => exact ⟨hcloses.builtins, hcloses.seenRoot.trans hseen⟩

theorem builtins_of_feedAll (h : b.feedAll events = .ok b') (hseen : b.seenRoot = true) :
    b'.builtins = b.builtins ∧ b'.seenRoot = true := by
  induction events generalizing b with
  | nil =>
      cases h
      exact ⟨rfl, hseen⟩
  | cons e events ih =>
      obtain ⟨after, hfirst, hrest⟩ := exists_of_feedAll_cons h
      obtain ⟨hbuiltins, hseen'⟩ := builtins_of_feed hfirst hseen
      obtain ⟨hbuiltins', hseen''⟩ := ih hrest hseen'
      exact ⟨hbuiltins'.trans hbuiltins, hseen''⟩

theorem seenRoot_of_mem (h : b.feedAll events = .ok b') (hmem : Event.startTag name attributes ∈ events) :
    b'.seenRoot = true := by
  obtain ⟨before, after, rfl⟩ := List.append_of_mem hmem
  obtain ⟨b₁, -, h⟩ := exists_of_feedAll_append h
  obtain ⟨b₂, hstart, h⟩ := exists_of_feedAll_cons h
  have hseen : b₂.outline.seenRoot = true := by
    have hnext := next_of_feed hstart
    generalize b₁.outline = o, b₂.outline = o' at hnext
    cases hnext with
    | root => rfl
    | start hseen _ hopens => exact hopens.seenRoot.1.trans hseen
  exact (builtins_of_feedAll h hseen).2

/-- A tag that is not the name of a schema stands below the root. -/
theorem seenRoot_of_construct {builtins : Builtins} (hschema : builtins.tag name ≠ .schema)
    (hother : builtins.tag name ≠ .other) (h : b.startTag name attributes = .ok b') : b.seenRoot = true := by
  refine Decidable.byContradiction fun hnone => ?_
  have hroot : b.startRoot name attributes = .ok b' := by
    simpa [startTag, hnone] using h
  unfold startRoot at hroot
  split at hroot
  · rename_i hname
    rcases Outline.tag_of_schema hname builtins with htag | htag
    · exact hschema htag
    · exact hother htag
  · cases hroot

/-! ### Whole tags -/

/-- A reading of whole tags, each with what is inside of it. -/
inductive Feeds : Builder → List Event → Builder → Prop where
  | nil (b : Builder) : Feeds b [] b
  | text {b b' : Builder} {content : String} {rest : List Event} (hrest : Feeds (b.text content) rest b') :
      Feeds b (.text content :: rest) b'
  | tree {b opened inside closed b' : Builder} {name : String} {attributes : Attributes} {inner rest : List Event}
      (hstart : b.feed (.startTag name attributes) = .ok opened) (hinner : Feeds opened inner inside)
      (hend : inside.feed (.endTag name) = .ok closed) (hrest : Feeds closed rest b') :
      Feeds b (.startTag name attributes :: (inner ++ .endTag name :: rest)) b'

theorem Feeds.feedAll_eq (h : b.Feeds events b') : b.feedAll events = .ok b' := by
  induction h with
  | nil => rfl
  | text _ ih => exact ih
  | tree hstart _ hend _ ihinner ihrest =>
      rw [feedAll_cons_of_ok hstart, feedAll_append_of_ok ihinner, feedAll_cons_of_ok hend]
      exact ihrest

theorem feeds_of_texts {before after : List Event} {b₁ : Builder} (hnone : before.filter Event.isTag = [])
    (h : b.feedAll before = .ok b₁) (hafter : b₁.Feeds after b') : b.Feeds (before ++ after) b' := by
  induction before generalizing b with
  | nil =>
      cases h
      exact hafter
  | cons e before ih =>
      obtain ⟨next, hfirst, hrest⟩ := exists_of_feedAll_cons h
      cases e with
      | text content =>
          cases hfirst
          exact .text (ih hnone hrest)
      | startTag | endTag => cases hnone

/-- Balanced events are whole tags. -/
theorem feeds_of_balanced (hbalanced : Balanced (events.filter Event.isTag)) (h : b.feedAll events = .ok b') :
    b.Feeds events b' := by
  generalize htags : events.filter Event.isTag = tags at hbalanced
  induction hbalanced generalizing events b b' with
  | nil =>
      have htexts := feeds_of_texts htags h (.nil b')
      rwa [List.append_nil] at htexts
  | @tree name attributes inner rest _ _ ihinner ihrest =>
      -- Texts may stand in front of the start tag and of the end tag.
      obtain ⟨before, events, rfl, hbefore, -, htags⟩ := List.filter_eq_cons_iff.mp htags
      obtain ⟨within, events, rfl, hwithin, htags⟩ := List.filter_eq_append_iff.mp htags
      obtain ⟨between, after, rfl, hbetween, -, hafter⟩ := List.filter_eq_cons_iff.mp htags
      obtain ⟨b₁, h₁, h⟩ := exists_of_feedAll_append h
      obtain ⟨b₂, h₂, h⟩ := exists_of_feedAll_cons h
      rw [← List.append_assoc] at h
      obtain ⟨b₃, h₃, h⟩ := exists_of_feedAll_append h
      obtain ⟨b₄, h₄, h₅⟩ := exists_of_feedAll_cons h
      have hinside : (within ++ between).filter Event.isTag = inner := by
        rw [List.filter_append, hwithin, List.filter_eq_nil_iff.mpr hbetween, List.append_nil]
      rw [← List.append_assoc within]
      exact feeds_of_texts (List.filter_eq_nil_iff.mpr hbefore) h₁
        (.tree h₂ (ihinner h₃ hinside) h₄ (ihrest h₅ hafter))

/-! ### Other open tags make no difference -/

/-- The events lead from one builder to the other on any open tags, and leave these as they were. -/
def Spans (b : Builder) (events : List Event) (b' : Builder) : Prop :=
  b'.openTags = b.openTags ∧ ∀ tags, (b.withOpenTags tags).feedAll events = .ok (b'.withOpenTags tags)

theorem Spans.refl (b : Builder) : b.Spans [] b := ⟨rfl, fun _ => rfl⟩

theorem Spans.append {b₁ b₂ b₃ : Builder} {first second : List Event} (h : b₁.Spans first b₂)
    (h' : b₂.Spans second b₃) : b₁.Spans (first ++ second) b₃ := by
  refine ⟨h'.1.trans h.1, fun tags => ?_⟩
  rw [feedAll_append_of_ok (h.2 tags)]
  exact h'.2 tags

theorem spans_text (b : Builder) (content : String) : b.Spans [.text content] (b.text content) := by
  refine ⟨congrArg Outline.openTags (outline_text b content), fun tags => ?_⟩
  show Except.ok ((b.withOpenTags tags).text content) = _
  rw [text_withOpenTags]

/-- A start tag and its end tag, around events that leave the open tags as they were. -/
theorem Spans.tree {b₁ b₂ b₃ b₄ : Builder} {inner : List Event} (hstart : b₁.feed (.startTag name attributes) = .ok b₂)
    (hinner : b₂.Spans inner b₃) (hend : b₃.feed (.endTag name) = .ok b₄) :
    b₁.Spans (.startTag name attributes :: (inner ++ [.endTag name])) b₄ := by
  obtain ⟨closing, hopen, hstart⟩ := startTag_withOpenTags hstart
  obtain ⟨tag, hopen', hend⟩ := endTag_withOpenTags hend
  -- The tag that is ended is the one that was started.
  obtain ⟨rfl, hrest⟩ := List.cons_eq_cons.mp (hopen'.symm.trans (hinner.1.trans hopen))
  refine ⟨hrest, fun tags => ?_⟩
  have hfirst : (b₁.withOpenTags tags).feed (.startTag name attributes) =
      .ok (b₂.withOpenTags (⟨name, closing⟩ :: tags)) := hstart tags
  have hlast : (b₃.withOpenTags (⟨name, closing⟩ :: tags)).feed (.endTag name) = .ok (b₄.withOpenTags tags) :=
    hend tags
  rw [feedAll_cons_of_ok hfirst, feedAll_append_of_ok (hinner.2 _), feedAll_cons_of_ok hlast]
  rfl

/-- Whole tags leave the open tags as they were, and are taken in the same whatever these are. -/
theorem Feeds.spans (h : b.Feeds events b') : b.Spans events b' := by
  induction h with
  | nil => exact .refl _
  | text _ ih => exact (spans_text _ _).append ih
  | tree hstart _ hend _ ihinner ihrest =>
      have htree := (Spans.tree hstart ihinner hend).append ihrest
      simpa using htree

/-! ### Below the root -/

/-- A reading of whole tags below the root. -/
inductive Runs : Builder → List Event → Builder → Prop where
  | nil (b : Builder) : Runs b [] b
  | text {b b' : Builder} {content : String} {rest : List Event} (hrest : Runs (b.text content) rest b') :
      Runs b (.text content :: rest) b'
  | tree {b opened inside closed b' : Builder} {name : String} {attributes : Attributes} {closing : Closing}
      {inner rest : List Event}
      (hstart : b.startConstruct (b.builtins.tag name) name attributes = .ok (opened, closing))
      (hinner : Runs (opened.withOpenTags (⟨name, closing⟩ :: b.openTags)) inner inside)
      (hend : (inside.withOpenTags b.openTags).close name closing = .ok closed) (hrest : Runs closed rest b') :
      Runs b (.startTag name attributes :: (inner ++ .endTag name :: rest)) b'

theorem exists_of_startTag (hseen : b.seenRoot = true) (h : b.startTag name attributes = .ok b') :
    ∃ opened closing, b.startConstruct (b.builtins.tag name) name attributes = .ok (opened, closing) ∧
      b' = opened.withOpenTags (⟨name, closing⟩ :: b.openTags) := by
  unfold startTag at h
  rw [hseen] at h
  split at h
  · rename_i hnone
    cases hnone
  · split at h
    · cases h
    · obtain ⟨⟨opened, closing⟩, hstart, rfl⟩ := exists_of_map_eq_ok h
      have hopen : opened.openTags = b.openTags := (opens_startConstruct hstart).openTags
      exact ⟨opened, closing, hstart, by rw [← hopen]; rfl⟩

theorem exists_of_endTag (h : b.endTag name = .ok b') :
    ∃ closing rest, b.openTags = ⟨name, closing⟩ :: rest ∧ (b.withOpenTags rest).close name closing = .ok b' := by
  unfold endTag at h
  split at h
  · cases h
  · rename_i tag rest hopen
    split at h
    · rename_i hname
      subst hname
      exact ⟨tag.closing, rest, hopen, h⟩
    · cases h

theorem Feeds.runs (h : b.Feeds events b') (hseen : b.seenRoot = true) : b.Runs events b' := by
  induction h with
  | nil => exact .nil _
  | @text b b' content rest hrest ih =>
      have hfeed : b.feed (.text content) = .ok (b.text content) := rfl
      exact .text (ih (builtins_of_feed hfeed hseen).2)
  | @tree b opened inside closed b' name attributes inner rest hstart hinner hend _ ihinner ihrest =>
      have hopened : opened.seenRoot = true := (builtins_of_feed hstart hseen).2
      have hinside : inside.seenRoot = true := (builtins_of_feedAll hinner.feedAll_eq hopened).2
      have hclosed : closed.seenRoot = true := (builtins_of_feed hend hinside).2
      obtain ⟨started, closing, hconstruct, rfl⟩ := exists_of_startTag hseen hstart
      obtain ⟨closing', rest', hopen, hclose⟩ := exists_of_endTag hend
      -- The tag that is ended is the one that was started.
      have hsame : inside.openTags = ⟨name, closing⟩ :: b.openTags := hinner.spans.1
      obtain ⟨heq, rfl⟩ := List.cons_eq_cons.mp (hopen.symm.trans hsame)
      obtain rfl : closing' = closing := congrArg OpenTag.closing heq
      exact .tree hconstruct (ihinner hopened) hclose (ihrest hclosed)

end Builder

/-! ### The stacks after a run -/

namespace Outline

/-- The stacks are the same, and so are all nodes that were there. -/
structure Returns (o o' : Outline) : Prop where
  frames : o'.frames = o.frames
  builtins : o'.builtins = o.builtins
  depth : ∀ closing : Closing, closing.isLeave = true → o'.depth closing = o.depth closing
  size_le : o.size ≤ o'.size
  bare : ∀ id : NodeId, id.index < o.size → o'.bare id = o.bare id

variable {o o' : Outline} {tag : Tag} {attributes : Attributes} {closing : Closing}

theorem Returns.trans {o'' : Outline} (h : o.Returns o') (h' : o'.Returns o'') : o.Returns o'' where
  frames := h'.frames.trans h.frames
  builtins := h'.builtins.trans h.builtins
  depth c hc := (h'.depth c hc).trans (h.depth c hc)
  size_le := Nat.le_trans h.size_le h'.size_le
  bare id hid := (h'.bare id (Nat.lt_of_lt_of_le hid h.size_le)).trans (h.bare id hid)

/-- A start tag puts a frame on the others if and only if its closing will take one off. -/
theorem Opens.frames_eq (h : o.Opens tag attributes closing o') :
    (if closing.ownsFrame then o'.frames.tail else o'.frames) = o.frames := by
  cases h with
  | skip | choice => rfl
  | node _ hkind _ _ => rw [if_pos (Closing.of_takes hkind).1]; rfl
  | simpleType | attributeGroup => rfl
  | enter _ hleave => rw [if_neg (by simp [(Closing.of_isLeave hleave).1])]; rfl

/-- The closing undoes what the start tag has done to the stacks. -/
theorem Opens.returns {opened inside closed : Outline} (hopens : o.Opens tag attributes closing opened)
    (hinside : opened.Returns inside) (hcloses : inside.Closes closing closed) : o.Returns closed where
  frames := by rw [hcloses.frames, hinside.frames, hopens.frames_eq]
  builtins := by rw [hcloses.builtins, hinside.builtins, hopens.builtins]
  depth c hc := by rw [hcloses.depth hc, hinside.depth c hc, hopens.depth hc, Nat.add_sub_cancel]
  size_le := by
    rw [hcloses.size_bare.1]
    exact Nat.le_trans hopens.size_bare.1 hinside.size_le
  bare id hid := by
    rw [hcloses.size_bare.2, hinside.bare id (Nat.lt_of_lt_of_le hid hopens.size_bare.1), hopens.size_bare.2 id hid]

end Outline

theorem Builder.Runs.returns {b b' : Builder} {events : List Event} (h : b.Runs events b') :
    b.outline.Returns b'.outline := by
  induction h with
  | nil => exact ⟨rfl, rfl, fun _ _ => rfl, Nat.le_refl _, fun _ _ => rfl⟩
  | @text b b' content rest _ ih =>
      rw [outline_text] at ih
      exact ih
  | @tree b opened inside closed b' name attributes closing inner rest hstart _ hend _ ihinner ihrest =>
      -- The closing undoes what the start tag has done, and what is inside returns by induction.
      have hopens : b.outline.Opens _ attributes closing opened.outline := opens_startConstruct hstart
      have hcloses := closes_close hend
      -- Which tags are open makes no difference to the other stacks.
      have hinside : opened.outline.Returns (inside.withOpenTags b.openTags).outline :=
        ⟨ihinner.frames, ihinner.builtins, ihinner.depth, ihinner.size_le, ihinner.bare⟩
      exact (hopens.returns hinside hcloses).trans ihrest

end SchemaBinding
