import SchemaBinding.Proofs.Builder.Document

/-!
# `SchemaBinding.Proofs.Builder.OpenTags`: what the open tags are for

A builder looks at its open tags only when an end tag comes, and then only at the innermost of them. All else that it
does is the same whatever tags are open. `Builder.withOpenTags` puts other open tags in the place of those that are there,
and the lemmas of this module say that it commutes with what events do. A start tag puts one open tag on the others,
whatever these are (`Builder.startTag_withOpenTags`), and an end tag takes one off (`Builder.endTag_withOpenTags`).
-/

set_option autoImplicit false

namespace SchemaBinding.Builder

/-- A builder with other open tags. -/
def withOpenTags (b : Builder) (tags : List OpenTag) : Builder := { b with openTags := tags }

/-- What a start tag gives, with other open tags. -/
def relabel (tags : List OpenTag) (r : Except SchemaError (Builder × Closing)) :
    Except SchemaError (Builder × Closing) :=
  r.map fun (after, closing) => (after.withOpenTags tags, closing)

section parts

variable (b : Builder) (tags : List OpenTag) (name : String) (attributes : Attributes)

@[simp]
theorem frames_withOpenTags : (b.withOpenTags tags).frames = b.frames := rfl

@[simp]
theorem atTopLevel_withOpenTags : (b.withOpenTags tags).atTopLevel = b.atTopLevel := rfl

@[simp]
theorem builtins_withOpenTags : (b.withOpenTags tags).builtins = b.builtins := rfl

@[simp]
theorem currentNode?_withOpenTags : (b.withOpenTags tags).currentNode? = b.currentNode? := rfl

@[simp]
theorem attributeDepth_withOpenTags : (b.withOpenTags tags).attributeDepth = b.attributeDepth := rfl

/-! ### The parts of start tags -/

theorem modifyCurrent_withOpenTags (f : Node → Node) :
    (b.withOpenTags tags).modifyCurrent f = (b.modifyCurrent f).withOpenTags tags := by
  unfold modifyCurrent
  rw [currentNode?_withOpenTags]
  split <;> rfl

theorem modifyAttribute?_withOpenTags (f : AttributeDef → AttributeDef) :
    (b.withOpenTags tags).modifyAttribute? f = (b.modifyAttribute? f).map (·.withOpenTags tags) := by
  have hslot : (b.withOpenTags tags).slot = b.slot := rfl
  have hmodel : (b.withOpenTags tags).model = b.model := rfl
  unfold modifyAttribute?
  rw [hslot, frames_withOpenTags, hmodel]
  split
  · rfl
  · split
    · rfl
    · dsimp only
      split
      · split <;> rfl
      · split <;> rfl
      · rfl

theorem extendCurrent_withOpenTags (base : String) :
    (b.withOpenTags tags).extendCurrent base = (b.extendCurrent base).withOpenTags tags := by
  unfold extendCurrent
  rw [builtins_withOpenTags]
  split <;> exact modifyCurrent_withOpenTags b tags _

theorem occurs_withOpenTags : (b.withOpenTags tags).occurs name attributes = b.occurs name attributes := rfl

theorem startNode_withOpenTags (kind : NodeKind) :
    (b.withOpenTags tags).startNode kind name attributes = relabel tags (b.startNode kind name attributes) := by
  have hnoted : (b.withOpenTags tags).noteSubstitution attributes =
      (b.noteSubstitution attributes).withOpenTags tags := by
    unfold noteSubstitution
    split <;> rfl
  unfold startNode
  rw [atTopLevel_withOpenTags, occurs_withOpenTags, hnoted]
  dsimp only
  split
  · rfl
  · cases b.occurs name attributes <;> rfl

theorem startWildcard_withOpenTags :
    (b.withOpenTags tags).startWildcard name attributes = relabel tags (b.startWildcard name attributes) := by
  unfold startWildcard
  rw [occurs_withOpenTags]
  cases b.occurs name attributes <;> rfl

theorem startGroup_withOpenTags :
    (b.withOpenTags tags).startGroup name attributes = relabel tags (b.startGroup name attributes) := by
  unfold startGroup
  rw [occurs_withOpenTags, atTopLevel_withOpenTags]
  split
  · split <;> rfl
  · cases b.occurs name attributes <;> rfl
  · rfl

theorem startAttribute_withOpenTags :
    (b.withOpenTags tags).startAttribute name attributes = relabel tags (b.startAttribute name attributes) := by
  unfold startAttribute
  rw [frames_withOpenTags]
  dsimp only
  split <;> rfl

theorem startAttributeGroup_withOpenTags :
    (b.withOpenTags tags).startAttributeGroup name attributes =
      relabel tags (b.startAttributeGroup name attributes) := by
  unfold startAttributeGroup
  rw [atTopLevel_withOpenTags, frames_withOpenTags]
  split
  · rfl
  · split <;> rfl
  · split
    · rfl
    · dsimp only
      rw [modifyCurrent_withOpenTags]
      rfl

theorem startSimpleType_withOpenTags :
    (b.withOpenTags tags).startSimpleType name attributes = relabel tags (b.startSimpleType name attributes) := by
  have hmodel : (b.withOpenTags tags).model = b.model := rfl
  unfold startSimpleType
  rw [attributeDepth_withOpenTags, frames_withOpenTags, currentNode?_withOpenTags, hmodel]
  extract_lets insideSimpleType insideAttributeGroup owner
  split
  · rfl
  · split
    · dsimp only
      rw [modifyCurrent_withOpenTags]
      rfl
    · split <;> rfl

theorem startExtension_withOpenTags :
    (b.withOpenTags tags).startExtension attributes = (b.startExtension attributes).withOpenTags tags := by
  unfold startExtension
  split
  · exact extendCurrent_withOpenTags b tags _
  · rfl

theorem restrict_withOpenTags (base : String) :
    (b.withOpenTags tags).restrict base = (b.restrict base).withOpenTags tags := by
  have hdepth : (b.withOpenTags tags).simpleContentDepth = b.simpleContentDepth := rfl
  unfold restrict
  rw [attributeDepth_withOpenTags, frames_withOpenTags, hdepth, modifyAttribute?_withOpenTags,
    extendCurrent_withOpenTags, modifyCurrent_withOpenTags]
  split
  · cases b.modifyAttribute? fun d => { d with declaredType := base } <;> rfl
  · split
    · rfl
    · split <;> rfl

theorem startRestriction_withOpenTags :
    (b.withOpenTags tags).startRestriction attributes = (b.startRestriction attributes).withOpenTags tags := by
  unfold startRestriction
  split
  · exact restrict_withOpenTags b tags _
  · rfl

theorem startUnion_withOpenTags :
    (b.withOpenTags tags).startUnion attributes = (b.startUnion attributes).withOpenTags tags := by
  unfold startUnion
  rw [frames_withOpenTags]
  split <;> rfl

theorem startList_withOpenTags :
    (b.withOpenTags tags).startList attributes = (b.startList attributes).withOpenTags tags := by
  unfold startList
  rw [frames_withOpenTags, attributeDepth_withOpenTags]
  split
  · split <;> rfl
  · rfl

theorem startWhiteSpace_withOpenTags (value : String) :
    (b.withOpenTags tags).startWhiteSpace value = (b.startWhiteSpace value).withOpenTags tags := by
  have hdepth : (b.withOpenTags tags).restrictionDepth = b.restrictionDepth := rfl
  unfold startWhiteSpace
  rw [hdepth, frames_withOpenTags]
  split
  · split <;> rfl
  · rfl

theorem modifyFacets?_withOpenTags (f : Facets → Facets) :
    (b.withOpenTags tags).modifyFacets? f = (b.modifyFacets? f).map (·.withOpenTags tags) := by
  unfold modifyFacets?
  rw [attributeDepth_withOpenTags, frames_withOpenTags, currentNode?_withOpenTags, modifyAttribute?_withOpenTags]
  split
  · rfl
  · split
    · rfl
    · cases b.currentNode? <;> rfl

theorem startFacet_withOpenTags (tag : Tag) :
    (b.withOpenTags tags).startFacet tag name attributes =
      (b.startFacet tag name attributes).map (·.withOpenTags tags) := by
  unfold startFacet
  split
  · rfl
  · rename_i value _
    split
    · rw [startWhiteSpace_withOpenTags]
      rfl
    · rw [modifyFacets?_withOpenTags]
      cases b.modifyFacets? (addFacet tag value) <;> rfl

theorem lendComplexType_withOpenTags :
    (b.withOpenTags tags).lendComplexType attributes = (b.lendComplexType attributes).withOpenTags tags :=
  modifyCurrent_withOpenTags b tags _

/-! ### Whole start tags -/

theorem startConstruct_withOpenTags (tag : Tag) :
    (b.withOpenTags tags).startConstruct tag name attributes =
      relabel tags (b.startConstruct tag name attributes) := by
  -- A facet leaves nothing to do for its end tag.
  have hfacet : ((b.withOpenTags tags).startFacet tag name attributes).map (·, Closing.nothing) =
      relabel tags ((b.startFacet tag name attributes).map (·, Closing.nothing)) := by
    rw [startFacet_withOpenTags]
    cases b.startFacet tag name attributes <;> rfl
  unfold startConstruct
  cases tag with
  | schema | sequence | all | complexContent | other | choice | annotated => rfl
  | element => exact startNode_withOpenTags b tags name attributes .element
  | complexType =>
      simp only [atTopLevel_withOpenTags, startNode_withOpenTags, lendComplexType_withOpenTags]
      split <;> rfl
  | any => exact startWildcard_withOpenTags b tags name attributes
  | group => exact startGroup_withOpenTags b tags name attributes
  | «attribute» => exact startAttribute_withOpenTags b tags name attributes
  | attributeGroup => exact startAttributeGroup_withOpenTags b tags name attributes
  | anyAttribute | simpleContent =>
      dsimp only
      rw [modifyCurrent_withOpenTags]
      rfl
  | «extension» =>
      dsimp only
      rw [startExtension_withOpenTags]
      rfl
  | simpleType => exact startSimpleType_withOpenTags b tags name attributes
  | restriction =>
      dsimp only
      rw [startRestriction_withOpenTags]
      rfl
  | enumeration | minInclusive | maxInclusive | whiteSpace => exact hfacet
  | union =>
      dsimp only
      rw [startUnion_withOpenTags]
      rfl
  | list =>
      dsimp only
      rw [startList_withOpenTags]
      rfl
  | documentation =>
      dsimp only
      have hdepth : (b.withOpenTags tags).annotationDepth = b.annotationDepth := rfl
      rw [hdepth]
      split <;> rfl

/-! ### Texts -/

theorem text_withOpenTags (content : String) :
    (b.withOpenTags tags).text content = (b.text content).withOpenTags tags := by
  have hdepth : (b.withOpenTags tags).documentationDepth = b.documentationDepth := rfl
  unfold text
  rw [hdepth, attributeDepth_withOpenTags, frames_withOpenTags]
  split
  · rfl
  · split
    · rfl
    · exact modifyCurrent_withOpenTags b tags _

/-! ### End tags -/

theorem attach_withOpenTags (id : NodeId) :
    (b.withOpenTags tags).attach id = (b.attach id).withOpenTags tags := by
  unfold attach
  rw [frames_withOpenTags]
  split <;> rfl

theorem popNode_withOpenTags :
    (b.withOpenTags tags).popNode name =
      (b.popNode name).map fun (popped, id) => (popped.withOpenTags tags, id) := by
  unfold popNode
  rw [frames_withOpenTags]
  split <;> rfl

theorem close_withOpenTags (closing : Closing) :
    (b.withOpenTags tags).close name closing = (b.close name closing).map (·.withOpenTags tags) := by
  unfold close
  cases closing with
  | popNode =>
      dsimp only
      rw [popNode_withOpenTags]
      cases b.popNode name with
      | error e => rfl
      | ok r => exact congrArg Except.ok (attach_withOpenTags r.1 tags r.2)
  | popGroup role =>
      dsimp only
      rw [popNode_withOpenTags]
      cases b.popNode name with
      | error e => rfl
      | ok r =>
          cases role with
          | definition | ignored => rfl
          | reference => exact congrArg Except.ok (attach_withOpenTags r.1 tags r.2)
  | popSimpleType | popAttributeGroup =>
      dsimp only
      rw [frames_withOpenTags]
      split <;> rfl
  | _ => rfl

end parts

/-! ### Events -/

variable {b b' : Builder} {name : String} {attributes : Attributes}

@[simp]
theorem withOpenTags_openTags (b : Builder) : b.withOpenTags b.openTags = b := rfl

@[simp]
theorem withOpenTags_withOpenTags (b : Builder) (tags tags' : List OpenTag) :
    (b.withOpenTags tags).withOpenTags tags' = b.withOpenTags tags' := rfl

@[simp]
theorem openTags_withOpenTags (b : Builder) (tags : List OpenTag) : (b.withOpenTags tags).openTags = tags := rfl

/-- A start tag puts one open tag on the others, whatever these are. -/
theorem startTag_withOpenTags (h : b.startTag name attributes = .ok b') :
    ∃ closing, b'.openTags = ⟨name, closing⟩ :: b.openTags ∧
      ∀ tags, (b.withOpenTags tags).startTag name attributes = .ok (b'.withOpenTags (⟨name, closing⟩ :: tags)) := by
  unfold startTag at h
  split at h
  · rename_i hseen
    unfold startRoot at h
    split at h
    · rename_i hname
      cases h
      refine ⟨.closeSchema, rfl, fun tags => ?_⟩
      show (if !b.seenRoot then _ else _) = _
      rw [if_pos hseen, startRoot, if_pos hname]
      rfl
    · cases h
  · rename_i hseen
    split at h
    · cases h
    · rename_i hclosed
      obtain ⟨⟨after, closing⟩, hstart, rfl⟩ := exists_of_map_eq_ok h
      -- The tag itself does nothing to the tags that are open.
      have hopen : after.openTags = b.openTags := (opens_startConstruct hstart).openTags
      refine ⟨closing, by simp [hopen], fun tags => ?_⟩
      show (if !b.seenRoot then _ else if b.closedRoot then _ else _) = _
      rw [if_neg hseen, if_neg hclosed, builtins_withOpenTags, startConstruct_withOpenTags, hstart]
      rfl

/-- An end tag looks at the innermost open tag only, and takes it off. -/
theorem endTag_withOpenTags (h : b.endTag name = .ok b') :
    ∃ tag, b.openTags = tag :: b'.openTags ∧
      ∀ tags, (b.withOpenTags (tag :: tags)).endTag name = .ok (b'.withOpenTags tags) := by
  unfold endTag at h
  split at h
  · cases h
  · rename_i tag rest htags
    split at h
    · rename_i hname
      have hopen : b'.openTags = rest := (closes_close h).openTags
      refine ⟨tag, by rw [hopen, htags], fun tags => ?_⟩
      show (if tag.name = name then ((b.withOpenTags rest).withOpenTags tags).close name tag.closing else _) = _
      have hclose : (b.withOpenTags rest).close name tag.closing = .ok b' := h
      rw [if_pos hname, close_withOpenTags, hclose]
      rfl
    · cases h

end SchemaBinding.Builder
