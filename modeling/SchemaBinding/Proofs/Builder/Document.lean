import SchemaBinding.Proofs.Builder.Discipline

/-!
# `SchemaBinding.Proofs.Builder.Document`: what a builder accepts is one document

The tags that a builder has taken in are a tree of which some tags are still open, and the open ones are those on its
stack of open tags (`Outline.Progress`). `Builder.disciplined_of_feedAll` adds that the other stacks match these tags
(`Outline.Disciplined`). So no end tag finds something else than its own on top of the frames, and no depth falls below
zero. When the reading ends in a model, the tags form one balanced tree, whose root is a `schema` tag (`IsDocument`).
-/

set_option autoImplicit false

namespace SchemaBinding

/-! ### The tree of the tags -/

/-- Whether an event is a start tag or an end tag. -/
def Event.isTag : Event → Bool
  | startTag _ _ | endTag _ => true
  | text _ => false

/-- Tags that form trees, one behind the other. -/
inductive Balanced : List Event → Prop where
  | nil : Balanced []
  | tree {name : String} {attributes : Attributes} {inner rest : List Event} (hinner : Balanced inner)
      (hrest : Balanced rest) : Balanced (.startTag name attributes :: (inner ++ .endTag name :: rest))

theorem Balanced.append {first second : List Event} (h : Balanced first) (h' : Balanced second) :
    Balanced (first ++ second) := by
  induction h with
  | nil => exact h'
  | tree hinner _ _ ih =>
      simp only [List.cons_append, List.append_assoc]
      exact .tree hinner ih

/-- The tags of a document with one schema. -/
def IsDocument (events : List Event) : Prop :=
  ∃ name attributes inner, events.filter Event.isTag = .startTag name attributes :: (inner ++ [.endTag name]) ∧
    Balanced inner ∧ localPart name = "schema"

/-- Tags of which some are left open, the innermost of them first. -/
inductive Unclosed : List String → List Event → Prop where
  | none {events : List Event} (h : Balanced events) : Unclosed [] events
  | tag {names : List String} {outer inner : List Event} {name : String} {attributes : Attributes}
      (houter : Unclosed names outer) (hinner : Balanced inner) :
      Unclosed (name :: names) (outer ++ .startTag name attributes :: inner)

theorem Unclosed.append {names : List String} {events more : List Event} (h : Unclosed names events)
    (hmore : Balanced more) : Unclosed names (events ++ more) := by
  cases h with
  | none hevents => exact .none (hevents.append hmore)
  | tag houter hinner =>
      rw [List.append_assoc, List.cons_append]
      exact .tag houter (hinner.append hmore)

theorem Unclosed.close {names : List String} {name : String} {events : List Event}
    (h : Unclosed (name :: names) events) : Unclosed names (events ++ [.endTag name]) := by
  cases h with
  | tag houter hinner =>
      rw [List.append_assoc]
      exact houter.append (.tree hinner .nil)

namespace Outline

/-- How far the tags of a document have come. -/
inductive Progress (o : Outline) : List Event → Prop where
  | before (hseen : o.seenRoot = false) (hclosed : o.closedRoot = false) (hopen : o.openTags = []) : Progress o []
  | inside {name : String} {attributes : Attributes} {inner : List Event} {tags : List OpenTag}
      (hseen : o.seenRoot = true) (hclosed : o.closedRoot = false) (hname : localPart name = "schema")
      (hopen : o.openTags = tags ++ [⟨name, .closeSchema⟩]) (htags : ∀ tag ∈ tags, tag.closing ≠ .closeSchema)
      (hinner : Unclosed (tags.map (·.name)) inner) : Progress o (.startTag name attributes :: inner)
  | after {name : String} {attributes : Attributes} {inner : List Event} (hseen : o.seenRoot = true)
      (hclosed : o.closedRoot = true) (hname : localPart name = "schema") (hopen : o.openTags = [])
      (hinner : Balanced inner) : Progress o (.startTag name attributes :: (inner ++ [.endTag name]))

section progress

variable {o o' : Outline} {tag : Tag} {attributes : Attributes} {closing : Closing}

theorem Opens.seenRoot (h : o.Opens tag attributes closing o') :
    o'.seenRoot = o.seenRoot ∧ o'.closedRoot = o.closedRoot := by
  cases h <;> exact ⟨rfl, rfl⟩

theorem Closes.seenRoot (h : o.Closes closing o') : o'.seenRoot = o.seenRoot := by
  cases h <;> rfl

theorem Closes.closedRoot (h : o.Closes closing o') :
    o'.closedRoot = if closing = .closeSchema then true else o.closedRoot := by
  cases h with
  | leave hleave => exact (if_neg (Closing.of_isLeave hleave).2.2).symm
  | _ => rfl

theorem Progress.opens {events : List Event} {name : String} (h : o.Progress events) (hseen : o.seenRoot = true)
    (hclosed : o.closedRoot = false) (hopens : o.Opens tag attributes closing o') :
    { o' with openTags := ⟨name, closing⟩ :: o'.openTags }.Progress (events ++ [Event.startTag name attributes]) := by
  cases h with
  | before hnone _ _ => cases hseen.symm.trans hnone
  | after _ hafter => cases hclosed.symm.trans hafter
  | @inside _ _ inner tags _ _ hname hopen htags hinner =>
      have hinner' : Unclosed (((⟨name, closing⟩ : OpenTag) :: tags).map (·.name))
          (inner ++ [Event.startTag name attributes]) := .tag hinner .nil
      refine .inside (hopens.seenRoot.1.trans hseen) (hopens.seenRoot.2.trans hclosed) hname ?_ ?_ hinner'
      · simp [hopens.openTags, hopen]
      · intro t ht
        rcases List.mem_cons.mp ht with rfl | ht
        · exact hopens.closing_ne
        · exact htags t ht

theorem Progress.closes {events : List Event} {tag : OpenTag} {rest : List OpenTag} (h : o.Progress events)
    (htop : o.openTags = tag :: rest) (hcloses : Closes { o with openTags := rest } tag.closing o') :
    o'.Progress (events ++ [Event.endTag tag.name]) := by
  have hopen' : o'.openTags = rest := hcloses.openTags
  have hclosed' := hcloses.closedRoot
  cases h with
  | before _ _ hopen | after _ _ _ hopen _ => cases htop.symm.trans hopen
  | @inside name attributes inner tags hseen hclosed hname hopen htags hinner =>
      have hseen' : o'.seenRoot = true := hcloses.seenRoot.trans hseen
      rw [htop] at hopen
      cases tags with
      | nil =>
          -- The root is closed.
          obtain ⟨rfl, rfl⟩ := List.cons_eq_cons.mp hopen
          cases hinner with
          | none hinner => exact .after hseen' hclosed' hname hopen' hinner
      | cons t tags =>
          obtain ⟨rfl, rfl⟩ := List.cons_eq_cons.mp hopen
          rw [if_neg (htags tag (List.mem_cons_self ..))] at hclosed'
          exact .inside hseen' (hclosed'.trans hclosed) hname hopen'
            (fun t ht => htags t (List.mem_cons_of_mem _ ht)) hinner.close

theorem Progress.of_not_seen {events : List Event} (h : o.Progress events) (hseen : o.seenRoot = false) :
    events = [] ∧ o.closedRoot = false ∧ o.openTags = [] := by
  cases h with
  | before _ hclosed hopen => exact ⟨rfl, hclosed, hopen⟩
  | inside hseen' _ _ _ _ _ | after hseen' _ _ _ _ => cases hseen.symm.trans hseen'

theorem Progress.of_all_closed {events : List Event} (h : o.Progress events) (hseen : o.seenRoot = true)
    (hopen : o.openTags = []) :
    ∃ name attributes inner, events = .startTag name attributes :: (inner ++ [.endTag name]) ∧ Balanced inner ∧
      localPart name = "schema" := by
  cases h with
  | before hseen' _ _ => cases hseen.symm.trans hseen'
  | inside _ _ _ hopen' _ _ => simp [hopen] at hopen'
  | after _ _ hname _ hinner => exact ⟨_, _, _, rfl, hinner, hname⟩

/-- The only frame of all is that of the root. -/
theorem Progress.frames_eq {events : List Event} (h : o.Progress events) (hseen : o.seenRoot = true)
    (hclosed : o.closedRoot = false) (hframes : List.Forall₂ o.Owned (owners o.openTags) o.frames)
    (hlength : o.frames.length = 1) : o.frames = [.node Model.root] := by
  cases h with
  | before hnone _ _ => cases hseen.symm.trans hnone
  | after _ hafter => cases hclosed.symm.trans hafter
  | @inside _ _ _ tags _ _ _ hopen _ _ =>
      have howners : owners o.openTags = owners tags ++ [.closeSchema] := by
        simp [owners, hopen, Closing.ownsFrame]
      have hnone : owners tags = [] := by
        have hcount := hframes.length_eq
        rw [howners, hlength, List.length_append] at hcount
        exact List.length_eq_zero_iff.mp (Nat.add_right_cancel hcount)
      rw [howners, hnone] at hframes
      obtain ⟨f, rest, howned, hrest, heq⟩ := List.forall₂_cons_left_iff.mp hframes
      rw [heq, List.forall₂_nil_left_iff.mp hrest]
      cases howned with
      | root => rfl
      | node _ _ hkind => cases hkind

end progress

theorem Reads.disciplined {events : List Event} {o : Outline} (h : Reads events o) :
    o.Disciplined (openStarts events) ∧ o.Progress (events.filter Event.isTag) := by
  induction h with
  | start => exact ⟨.start, .before rfl rfl rfl⟩
  | @next events e o o' hbefore hnext ih =>
      obtain ⟨hdisciplined, hprogress⟩ := ih
      rw [openStarts_concat, List.filter_append]
      cases hnext with
      | text content => simpa [Event.isTag, nextStarts] using ⟨hdisciplined, hprogress⟩
      | root hseen hname builtins =>
          obtain ⟨hnone, hclosed, hopen⟩ := hprogress.of_not_seen hseen
          refine ⟨hdisciplined.root hopen hname builtins, ?_⟩
          rw [hnone]
          have hinner : Unclosed (([] : List OpenTag).map (·.name)) [] := .none .nil
          refine .inside rfl hclosed hname ?_ (by simp) hinner
          exact congrArg (OpenTag.mk _ .closeSchema :: ·) hopen
      | start hseen hclosed hopens =>
          exact ⟨hdisciplined.opens hbefore.populated.root.1 hopens, hprogress.opens hseen hclosed hopens⟩
      | close htop hcloses => exact ⟨hdisciplined.closes htop hcloses, hprogress.closes htop hcloses⟩

end Outline

/-! ### Builders -/

theorem exists_of_bind_eq_error {ε α β : Type} {x : Except ε α} {f : α → Except ε β} {e : ε}
    (h : x >>= f = .error e) : x = .error e ∨ ∃ a, x = .ok a ∧ f a = .error e := by
  cases x with
  | error e' =>
      cases h
      exact .inl rfl
  | ok a => exact .inr ⟨a, rfl, h⟩

theorem eq_error_of_map_eq_error {ε α β : Type} {x : Except ε α} {f : α → β} {e : ε} (h : x.map f = .error e) :
    x = .error e := by
  cases x with
  | error e' =>
      cases h
      rfl
  | ok a => cases h

namespace Builder

variable {b : Builder} {name tag : String} {attributes : Attributes}

/-- The error of a tag that finds something else than its own on top of the frames. -/
abbrev unbalanced (name : String) : SchemaError := .malformedNesting name .unbalancedConstruct

theorem occurs_ne {n : String} : b.occurs tag attributes ≠ .error (unbalanced n) := by
  intro h
  unfold occurs at h
  extract_lets choice minimum maximum finish at h
  have hfinish : ∀ least, finish least ≠ .error (unbalanced n) := by
    intro least h
    dsimp only [finish] at h
    split at h
    · cases h
    · cases h
    · split at h <;> cases h
  clear_value finish minimum
  split at h
  · exact hfinish _ h
  · split at h
    · exact hfinish _ h
    · cases h

theorem startNode_ne {kind : NodeKind} {n : String} : b.startNode kind tag attributes ≠ .error (unbalanced n) := by
  intro h
  unfold startNode at h
  dsimp only at h
  split at h
  · cases h
  · rcases exists_of_bind_eq_error h with h | ⟨_, -, h⟩
    · exact occurs_ne h
    · cases h

theorem startGroup_ne {n : String} : b.startGroup tag attributes ≠ .error (unbalanced n) := by
  intro h
  unfold startGroup at h
  split at h
  · split at h <;> cases h
  · rcases exists_of_bind_eq_error h with h | ⟨_, -, h⟩
    · exact occurs_ne h
    · cases h
  · cases h

theorem startAttribute_ne {n : String} : b.startAttribute tag attributes ≠ .error (unbalanced n) := by
  intro h
  unfold startAttribute at h
  dsimp only at h
  split at h <;> cases h

theorem startAttributeGroup_ne {n : String} : b.startAttributeGroup tag attributes ≠ .error (unbalanced n) := by
  intro h
  unfold startAttributeGroup at h
  split at h
  · cases h
  · split at h <;> cases h
  · split at h <;> cases h

theorem startSimpleType_ne {n : String} : b.startSimpleType tag attributes ≠ .error (unbalanced n) := by
  intro h
  unfold startSimpleType at h
  extract_lets insideSimpleType insideAttributeGroup owner at h
  split at h
  · cases h
  · split at h
    · cases h
    · split at h <;> cases h

theorem startFacet_ne {kind : Tag} {n : String} : b.startFacet kind tag attributes ≠ .error (unbalanced n) := by
  intro h
  unfold startFacet at h
  split at h
  · cases h
  · split at h
    · cases h
    · split at h <;> cases h

theorem startConstruct_ne {kind : Tag} {n : String} :
    b.startConstruct kind tag attributes ≠ .error (unbalanced n) := by
  intro h
  unfold startConstruct at h
  cases kind with
  | element => exact startNode_ne h
  | complexType =>
      dsimp only at h
      split at h
      · exact startNode_ne h
      · cases h
  | any =>
      rcases exists_of_bind_eq_error h with h | ⟨_, -, h⟩
      · exact occurs_ne h
      · cases h
  | group => exact startGroup_ne h
  | «attribute» => exact startAttribute_ne h
  | attributeGroup => exact startAttributeGroup_ne h
  | simpleType => exact startSimpleType_ne h
  | enumeration | minInclusive | maxInclusive | whiteSpace => exact startFacet_ne (eq_error_of_map_eq_error h)
  | documentation =>
      dsimp only at h
      split at h <;> cases h
  | _ => cases h

/-- A start tag has no need of its own on top of the frames. -/
theorem startTag_ne {n : String} : b.startTag name attributes ≠ .error (unbalanced n) := by
  intro h
  unfold startTag at h
  split at h
  · unfold startRoot at h
    split at h <;> cases h
  · split at h
    · cases h
    · exact startConstruct_ne (eq_error_of_map_eq_error h)

theorem exists_top_of_owned {closing : Closing} {tags : List OpenTag}
    (h : List.Forall₂ b.outline.Owned (owners (⟨name, closing⟩ :: tags)) b.outline.frames)
    (howns : closing.ownsFrame = true) : ∃ frame rest, b.frames = frame :: rest ∧ b.outline.Owned closing frame.shape := by
  rw [owners_cons, if_pos howns] at h
  obtain ⟨shape, shapes, howned, -, heq⟩ := List.forall₂_cons_left_iff.mp h
  obtain ⟨frame, rest, hframes, rfl, -⟩ := List.map_eq_cons_iff.mp heq
  exact ⟨frame, rest, hframes, howned⟩

/-- A closing that finds its own frame on top can be done. -/
theorem exists_close_eq_ok {closing : Closing} {tags : List OpenTag}
    (h : List.Forall₂ b.outline.Owned (owners (⟨name, closing⟩ :: tags)) b.outline.frames) :
    ∃ b', b.close name closing = .ok b' := by
  cases closing with
  | popNode | popGroup role =>
      obtain ⟨frame, rest, hframes, howned⟩ := exists_top_of_owned h rfl
      cases frame with
      | node id => exact ⟨_, by simp only [close, popNode, hframes]; rfl⟩
      | simpleType d | attributeGroup d => cases howned
  | popSimpleType =>
      obtain ⟨frame, rest, hframes, howned⟩ := exists_top_of_owned h rfl
      cases frame with
      | simpleType d => exact ⟨_, by simp only [close, hframes]; rfl⟩
      | node id =>
          cases howned with
          | node _ _ hkind => cases hkind
      | attributeGroup d => cases howned
  | popAttributeGroup =>
      obtain ⟨frame, rest, hframes, howned⟩ := exists_top_of_owned h rfl
      cases frame with
      | attributeGroup d => exact ⟨_, by simp only [close, hframes]; rfl⟩
      | node id =>
          cases howned with
          | node _ _ hkind => cases hkind
      | simpleType d => cases howned
  | _ => exact ⟨_, rfl⟩

/-- An end tag finds its own on top of the frames. -/
theorem endTag_ne {starts : List (String × Attributes)} (h : b.outline.Disciplined starts) {n : String} :
    b.endTag name ≠ .error (unbalanced n) := by
  intro herror
  unfold endTag at herror
  split at herror
  · cases herror
  · rename_i tag rest htags
    split at herror
    · rename_i hname
      subst hname
      have hframes := h.frames
      rw [show b.outline.openTags = tag :: rest from htags] at hframes
      obtain ⟨b', hclosed⟩ := exists_close_eq_ok (b := { b with openTags := rest }) hframes
      cases hclosed.symm.trans herror
    · cases herror

/-- **The stacks of a builder follow the tags that are open.** So no event meets a construct that is not on top of the
frames, no depth falls below zero, and the reading ends in a model only if the tags are those of one document. -/
theorem disciplined_of_feedAll {prefixOverride : Option String} {events : List Event}
    (h : (start prefixOverride).feedAll events = .ok b) :
    b.outline.Disciplined (openStarts events) ∧
      (∀ e n, b.feed e ≠ .error (.malformedNesting n .unbalancedConstruct)) ∧
      (∀ tag ∈ b.openTags, tag.closing.isLeave = true → 0 < b.depth tag.closing) ∧
      ∀ m, b.finish = .ok m → IsDocument events := by
  obtain ⟨hdisciplined, hprogress⟩ := (reads_of_feedAll h).disciplined
  refine ⟨hdisciplined, fun e n => ?_, fun tag htag hleave => ?_, fun m hfinish => ?_⟩
  · cases e with
    | startTag name attributes => exact startTag_ne
    | text content => nofun
    | endTag name => exact endTag_ne hdisciplined
  · have hdepth : b.depth tag.closing = b.openTags.countP (·.closing == tag.closing) :=
      hdisciplined.depth tag.closing hleave
    rw [hdepth, List.countP_pos_iff]
    exact ⟨tag, htag, beq_self_eq_true _⟩
  · obtain ⟨-, hseen, hopen⟩ := eq_of_finish hfinish
    exact hprogress.of_all_closed hseen hopen

/-- An element inside of a choice, where all tags are still open. -/
def openedChoice : List Event :=
  [.startTag "schema" ⟨[]⟩, .startTag "complexType" ⟨[("name", "Order")]⟩,
    .startTag "choice" ⟨[("maxOccurs", "unbounded")]⟩, .startTag "element" ⟨[("name", "item")]⟩,
    .startTag "annotation" ⟨[]⟩]

theorem disciplined_openedChoice : ∃ b : Builder,
    (start none).feedAll openedChoice = .ok b ∧ b.frames.length = 3 ∧
      b.choices = [⟨2, none, some "unbounded"⟩] ∧ b.outline.Disciplined (openStarts openedChoice) := by
  obtain ⟨b, hfeed, hframes, hchoices⟩ : ∃ b : Builder, (start none).feedAll openedChoice = .ok b ∧
      b.frames.length = 3 ∧ b.choices = [⟨2, none, some "unbounded"⟩] := ⟨_, rfl, rfl, rfl⟩
  exact ⟨b, hfeed, hframes, hchoices, (disciplined_of_feedAll hfeed).1⟩

end Builder

end SchemaBinding
