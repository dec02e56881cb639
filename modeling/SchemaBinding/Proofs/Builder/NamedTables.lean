import SchemaBinding.Proofs.Builder.Runs
import SchemaBinding.Proofs.Builder.SimpleTypes
import SchemaBinding.Proofs.Table

/-!
# `SchemaBinding.Proofs.Builder.NamedTables`: tables whose keys are the names of their values

A simple type is looked up by its name as written first, and then by the cleaned name. Both give the same because only
cleaned names are keys (`Symbols.WellNamed.simpleType?_eq`). A key comes from the frame on which the type was read, and
the frame has it from a start tag or from the node around it, so the invariant asks for clean names on the frames too
(`Builder.NamesTables`).

Start tags change no table of declarations but that of the substitution groups (`Builder.exists_symbols_startConstruct`).
What the other tables get, they get from end tags (`Builder.NamesTables.close`).
-/

set_option autoImplicit false

namespace SchemaBinding

theorem cleanupChar_cleanupChar (c : Char) : cleanupChar (cleanupChar c) = cleanupChar c := by
  unfold cleanupChar
  split <;> simp_all

/-- A cleaned name stays as it is. -/
@[simp]
theorem cleanup_cleanup (name : String) : cleanup (cleanup name) = cleanup name := by
  have hchar : cleanupChar ∘ cleanupChar = cleanupChar := funext cleanupChar_cleanupChar
  rw [cleanup, cleanup, String.toList_ofList, List.map_map, hchar]

/-! ### Tables -/

/-- Simple types and attribute groups are in their tables under their names, and the names of simple types are clean. The
top-level simple types are among those of the table. -/
structure Symbols.WellNamed (s : Symbols) : Prop where
  simpleTypes : ∀ entry ∈ s.simpleTypes.entries, entry.1 = entry.2.name ∧ cleanup entry.1 = entry.1
  topLevel : ∀ name ∈ s.topLevelSimpleTypes, name ∈ s.simpleTypes.keys
  attributeGroups : ∀ entry ∈ s.attributeGroups.entries, entry.1 = entry.2.name

namespace Symbols.WellNamed

variable {s : Symbols}

/-- A name that is found is clean, so the second look is the only one that counts. -/
theorem simpleType?_eq (h : s.WellNamed) (name : String) : s.simpleType? name = s.simpleTypes.get? (cleanup name) := by
  unfold simpleType?
  cases hname : s.simpleTypes.get? name with
  | none => rfl
  | some d =>
      have hclean : cleanup name = name := (h.simpleTypes _ (Table.mem_entries_of_get?_eq hname)).2
      rw [hclean, hname]

theorem simpleType?_congr (h : s.WellNamed) {name other : String} (hsame : cleanup name = cleanup other) :
    s.simpleType? name = s.simpleType? other := by
  rw [h.simpleType?_eq, h.simpleType?_eq, hsame]

/-- A simple type that is found stands in the table under its own name. -/
theorem get?_name (h : s.WellNamed) {name : String} {d : SimpleTypeDef} (hd : s.simpleType? name = some d) :
    s.simpleTypes.get? d.name = some d := by
  rw [h.simpleType?_eq] at hd
  have hkey : cleanup name = d.name := (h.simpleTypes _ (Table.mem_entries_of_get?_eq hd)).1
  rw [← hkey, hd]

/-- A simple type of a clean name may be registered, and may be listed when it is. -/
theorem registerSimpleType (h : s.WellNamed) {d : SimpleTypeDef} (hclean : cleanup d.name = d.name) {listed : List String}
    (hlisted : ∀ name ∈ listed, name = d.name ∨ name ∈ s.topLevelSimpleTypes) :
    ({ s with topLevelSimpleTypes := listed }.registerSimpleType d).WellNamed where
  simpleTypes := Table.forall_mem_entries_insert h.simpleTypes ⟨rfl, hclean⟩
  topLevel name hname := by
    refine Table.has_iff_mem_keys.mp (Table.has_insert.mpr ?_)
    exact (hlisted name hname).imp_right fun hold => Table.has_iff_mem_keys.mpr (h.topLevel name hold)
  attributeGroups := h.attributeGroups

theorem insertAttributeGroup (h : s.WellNamed) (d : AttributeGroupDef) :
    ({ s with attributeGroups := s.attributeGroups.insert d.name d } : Symbols).WellNamed :=
  ⟨h.simpleTypes, h.topLevel, Table.forall_mem_entries_insert h.attributeGroups rfl⟩

end Symbols.WellNamed

namespace Builder

variable {b b' : Builder} {tag : Tag} {name : String} {attributes : Attributes} {closing : Closing}

/-! ### Parts of tags that change no table -/

theorem symbols_modifyCurrent (b : Builder) (f : Node → Node) : (b.modifyCurrent f).model.symbols = b.model.symbols := by
  unfold modifyCurrent
  split <;> rfl

theorem symbols_attach (b : Builder) (id : NodeId) : (b.attach id).model.symbols = b.model.symbols := by
  unfold attach
  split <;> rfl

theorem symbols_modifyAttribute? {f : AttributeDef → AttributeDef} (h : b.modifyAttribute? f = some b') :
    b'.model.symbols = b.model.symbols := by
  unfold modifyAttribute? at h
  split at h
  · cases h
  · split at h
    · cases h
    · dsimp only at h
      split at h
      · split at h <;> cases h
        rfl
      · split at h <;> cases h
        rfl
      · cases h

theorem symbols_extendCurrent (b : Builder) (base : String) : (b.extendCurrent base).model.symbols = b.model.symbols := by
  unfold extendCurrent
  split <;> exact symbols_modifyCurrent b _

theorem symbols_startExtension (b : Builder) (attributes : Attributes) :
    (b.startExtension attributes).model.symbols = b.model.symbols := by
  unfold startExtension
  split
  · exact symbols_extendCurrent b _
  · rfl

theorem symbols_startRestriction (b : Builder) (attributes : Attributes) :
    (b.startRestriction attributes).model.symbols = b.model.symbols := by
  unfold startRestriction restrict
  split
  · split
    · cases hchanged : b.modifyAttribute? _ with
      | none => rfl
      | some changed => exact symbols_modifyAttribute? hchanged
    · split
      · rfl
      · split
        · exact symbols_extendCurrent b _
        · exact symbols_modifyCurrent b _
  · rfl

theorem symbols_startUnion (b : Builder) (attributes : Attributes) :
    (b.startUnion attributes).model.symbols = b.model.symbols := by
  unfold startUnion
  split <;> rfl

theorem symbols_startList (b : Builder) (attributes : Attributes) :
    (b.startList attributes).model.symbols = b.model.symbols := by
  unfold startList
  split
  · split <;> rfl
  · rfl

theorem symbols_startWhiteSpace (b : Builder) (value : String) :
    (b.startWhiteSpace value).model.symbols = b.model.symbols := by
  unfold startWhiteSpace
  split
  · split <;> rfl
  · rfl

theorem symbols_startFacet (h : b.startFacet tag name attributes = .ok b') : b'.model.symbols = b.model.symbols := by
  unfold startFacet at h
  split at h
  · cases h
    rfl
  · split at h
    · cases h
      exact symbols_startWhiteSpace b _
    · split at h
      · rename_i changed hchanged
        cases h
        unfold modifyFacets? at hchanged
        split at hchanged
        · exact symbols_modifyAttribute? hchanged
        · split at hchanged
          · cases hchanged
            rfl
          · obtain ⟨id, -, rfl⟩ := Option.map_eq_some_iff.mp hchanged
            rfl
      · cases h

theorem symbols_startGroup (h : b.startGroup name attributes = .ok (b', closing)) :
    b'.model.symbols = b.model.symbols := by
  unfold startGroup at h
  split at h
  · split at h <;> cases h
    rfl
  · obtain ⟨bounds, -, h⟩ := exists_of_bind_eq_ok h
    cases h
    rfl
  · cases h
    rfl

theorem symbols_startAttribute (h : b.startAttribute name attributes = .ok (b', closing)) :
    b'.model.symbols = b.model.symbols := by
  unfold startAttribute at h
  dsimp only at h
  split at h <;> cases h <;> rfl

theorem symbols_startAttributeGroup (h : b.startAttributeGroup name attributes = .ok (b', closing)) :
    b'.model.symbols = b.model.symbols := by
  unfold startAttributeGroup at h
  split at h
  · cases h
    rfl
  · split at h <;> cases h
    rfl
  · split at h <;> cases h
    · rfl
    · exact symbols_modifyCurrent b _

theorem symbols_startSimpleType (h : b.startSimpleType name attributes = .ok (b', closing)) :
    b'.model.symbols = b.model.symbols := by
  unfold startSimpleType at h
  extract_lets insideSimpleType insideAttributeGroup owner at h
  split at h
  · cases h
    rfl
  · split at h
    · cases h
      exact symbols_modifyCurrent b _
    · split at h <;> cases h
      rfl

/-- Only an element that names its substitution group changes a table. -/
theorem exists_symbols_startNode {kind : NodeKind} (h : b.startNode kind name attributes = .ok (b', closing)) :
    ∃ groups, b'.model.symbols = { b.model.symbols with substitutionGroups := groups } := by
  unfold startNode at h
  dsimp only at h
  split at h
  · cases h
  · obtain ⟨bounds, -, h⟩ := exists_of_bind_eq_ok h
    cases h
    show ∃ groups, (b.noteSubstitution attributes).model.symbols = _
    unfold noteSubstitution
    split <;> exact ⟨_, rfl⟩

theorem exists_symbols_startConstruct (h : b.startConstruct tag name attributes = .ok (b', closing)) :
    ∃ groups, b'.model.symbols = { b.model.symbols with substitutionGroups := groups } := by
  have hsame : b'.model.symbols = b.model.symbols →
      ∃ groups, b'.model.symbols = { b.model.symbols with substitutionGroups := groups } := fun heq => ⟨_, heq⟩
  have hfacet : (b.startFacet tag name attributes).map (·, Closing.nothing) = .ok (b', closing) →
      b'.model.symbols = b.model.symbols := by
    intro hfacet
    obtain ⟨changed, hstart, heq⟩ := exists_of_map_eq_ok hfacet
    cases heq
    exact symbols_startFacet hstart
  unfold startConstruct at h
  cases tag with
  | schema => cases h
  | element => exact exists_symbols_startNode h
  | complexType =>
      dsimp only at h
      split at h
      · exact exists_symbols_startNode h
      · cases h
        exact hsame (symbols_modifyCurrent b _)
  | any =>
      obtain ⟨bounds, -, h⟩ := exists_of_bind_eq_ok h
      cases h
      exact hsame rfl
  | group => exact hsame (symbols_startGroup h)
  | sequence | all | complexContent | other | choice | annotated =>
      cases h
      exact hsame rfl
  | «attribute» => exact hsame (symbols_startAttribute h)
  | attributeGroup => exact hsame (symbols_startAttributeGroup h)
  | anyAttribute | simpleContent =>
      cases h
      exact hsame (symbols_modifyCurrent b _)
  | extension =>
      cases h
      exact hsame (symbols_startExtension b attributes)
  | simpleType => exact hsame (symbols_startSimpleType h)
  | restriction =>
      cases h
      exact hsame (symbols_startRestriction b attributes)
  | enumeration | minInclusive | maxInclusive | whiteSpace => exact hsame (hfacet h)
  | union =>
      cases h
      exact hsame (symbols_startUnion b attributes)
  | list =>
      cases h
      exact hsame (symbols_startList b attributes)
  | documentation =>
      dsimp only at h
      split at h <;> cases h <;> exact hsame rfl

theorem symbols_text (b : Builder) (content : String) : (b.text content).model.symbols = b.model.symbols := by
  unfold text
  split
  · rfl
  · split
    · rfl
    · exact symbols_modifyCurrent b _

theorem symbols_popNode {popped : Builder} {id : NodeId} (h : b.popNode name = .ok (popped, id)) :
    popped.model.symbols = b.model.symbols := by
  unfold popNode at h
  split at h <;> cases h
  rfl

/-! ### Names on frames -/

/-- The name of a simple type is clean from the start. -/
theorem unfinished_startSimpleType (h : b.startSimpleType name attributes = .ok (b', closing)) :
    b'.simpleTypes.unfinished = b.simpleTypes.unfinished ∨
      ∃ typeName, b'.simpleTypes.unfinished = some (cleanup typeName, {}) :: b.simpleTypes.unfinished := by
  unfold startSimpleType at h
  extract_lets insideSimpleType insideAttributeGroup owner at h
  split at h
  · cases h
    exact .inl rfl
  · split at h
    · rename_i typeName _
      cases h
      rw [simpleTypes_pushFrame, simpleTypes_nameCurrent]
      exact .inr ⟨typeName, rfl⟩
    · split at h <;> cases h
      exact .inl rfl

/-- The simple types that are being read have clean names. -/
def HasCleanFrames (b : Builder) : Prop :=
  ∀ typeName v, some (typeName, v) ∈ b.simpleTypes.unfinished → cleanup typeName = typeName

theorem HasCleanFrames.startConstruct (h : b.HasCleanFrames)
    (hb : b.startConstruct tag name attributes = .ok (b', closing)) : b'.HasCleanFrames := by
  intro typeName v hmem
  by_cases htag : tag = .simpleType
  · subst htag
    rcases unfinished_startSimpleType hb with hsame | ⟨raw, hsame⟩
    · exact h typeName v (hsame ▸ hmem)
    · rw [hsame] at hmem
      rcases List.mem_cons.mp hmem with heq | hmem
      · cases heq
        exact cleanup_cleanup raw
      · exact h typeName v hmem
  · -- No other tag puts a simple type on the frames, so all names are old ones.
    have hopens := opensTypes_startConstruct hb
    generalize b'.simpleTypes = after at hopens hmem
    cases hopens with
    | fill =>
        unfold filled at hmem
        split at hmem
        · cases hunfinished : b.simpleTypes.unfinished with
          | nil =>
              rw [hunfinished] at hmem
              cases hmem
          | cons top rest =>
              rw [hunfinished] at hmem
              rcases List.mem_cons.mp hmem with heq | hmem
              · -- What is filled in is not the name.
                obtain ⟨⟨_, old⟩, rfl, heq⟩ := Option.map_eq_some_iff.mp heq.symm
                cases heq
                exact h typeName old (hunfinished ▸ List.mem_cons_self)
              · exact h typeName v (hunfinished ▸ List.mem_cons_of_mem _ hmem)
        · exact h typeName v hmem
    | frame =>
        rcases List.mem_cons.mp hmem with heq | hmem
        · cases heq
        · exact h typeName v hmem
    | simpleType htype => exact absurd htype htag

theorem HasCleanFrames.close (h : b.HasCleanFrames) (hb : b.close name closing = .ok b') : b'.HasCleanFrames := by
  intro typeName v hmem
  rw [simpleTypes_close hb] at hmem
  dsimp only at hmem
  split at hmem
  · exact h typeName v (List.mem_of_mem_tail hmem)
  · exact h typeName v hmem

/-! ### Events -/

/-- The tables have the names of their values for keys, and what is being read has clean names. -/
structure NamesTables (b : Builder) : Prop where
  frames : b.HasCleanFrames
  symbols : b.model.symbols.WellNamed

namespace NamesTables

theorem startConstruct (h : b.NamesTables) (hb : b.startConstruct tag name attributes = .ok (b', closing)) :
    b'.NamesTables := by
  refine ⟨h.frames.startConstruct hb, ?_⟩
  obtain ⟨groups, hsymbols⟩ := exists_symbols_startConstruct hb
  rw [hsymbols]
  exact ⟨h.symbols.simpleTypes, h.symbols.topLevel, h.symbols.attributeGroups⟩

theorem close (h : b.NamesTables) (hb : b.close name closing = .ok b') : b'.NamesTables := by
  refine ⟨h.frames.close hb, ?_⟩
  unfold Builder.close at hb
  cases closing with
  | nothing | closeSchema | closeChoice | leaveAttribute | leaveRestriction | leaveSimpleContent | leaveAnnotated |
    leaveDocumentation =>
      cases hb
      exact h.symbols
  | popNode =>
      obtain ⟨⟨popped, id⟩, hpop, rfl⟩ := exists_of_map_eq_ok hb
      dsimp only
      rw [symbols_attach, symbols_popNode hpop]
      exact h.symbols
  | popGroup role =>
      obtain ⟨⟨popped, id⟩, hpop, rfl⟩ := exists_of_map_eq_ok hb
      have hpopped : popped.model.symbols.WellNamed := symbols_popNode hpop ▸ h.symbols
      cases role with
      | definition => exact ⟨hpopped.simpleTypes, hpopped.topLevel, hpopped.attributeGroups⟩
      | ignored => exact hpopped
      | reference =>
          dsimp only
          rw [symbols_attach]
          exact hpopped
  | popSimpleType =>
      dsimp only at hb
      split at hb
      · rename_i d rest hframes
        cases hb
        have hclean : cleanup d.name = d.name := by
          refine h.frames d.name d.valueSpace ?_
          simp [simpleTypes, hframes, Frame.simpleType?]
        refine h.symbols.registerSimpleType hclean fun typeName hlisted => ?_
        split at hlisted
        · rcases List.mem_append.mp hlisted with hold | hlast
          · exact .inr hold
          · exact .inl (List.mem_singleton.mp hlast)
        · exact .inr hlisted
      · cases hb
  | popAttributeGroup =>
      dsimp only at hb
      split at hb
      · rename_i d rest hframes
        cases hb
        exact h.symbols.insertAttributeGroup d
      · cases hb

theorem feed {e : Event} (h : b.NamesTables) (hb : b.feed e = .ok b') : b'.NamesTables := by
  cases e with
  | text content =>
      cases hb
      refine ⟨fun typeName v hmem => ?_, symbols_text b content ▸ h.symbols⟩
      rw [simpleTypes_text] at hmem
      exact h.frames typeName v hmem
  | endTag name =>
      obtain ⟨closing, rest, -, hclose⟩ := exists_of_endTag hb
      exact NamesTables.close (b := b.withOpenTags rest) ⟨h.frames, h.symbols⟩ hclose
  | startTag name attributes =>
      by_cases hseen : b.seenRoot = true
      · obtain ⟨opened, closing, hstart, rfl⟩ := exists_of_startTag hseen hb
        have hopened := h.startConstruct hstart
        exact ⟨hopened.frames, hopened.symbols⟩
      · have hroot : b.startRoot name attributes = .ok b' := by
          simpa [Builder.feed, startTag, hseen] using hb
        unfold startRoot at hroot
        split at hroot
        · cases hroot
          refine ⟨fun typeName v hmem => ?_, h.symbols⟩
          rcases List.mem_cons.mp hmem with heq | hmem
          · cases heq
          · exact h.frames typeName v hmem
        · cases hroot

theorem feedAll {events : List Event} (h : b.NamesTables) (hb : b.feedAll events = .ok b') : b'.NamesTables := by
  induction events generalizing b with
  | nil =>
      cases hb
      exact h
  | cons e rest ih =>
      obtain ⟨after, hfirst, hrest⟩ := exists_of_feedAll_cons hb
      exact ih (h.feed hfirst) hrest

end NamesTables

theorem namesTables_start (prefixOverride : Option String) : (start prefixOverride).NamesTables where
  frames _ _ hmem := absurd hmem List.not_mem_nil
  symbols := by constructor <;> exact fun _ h => absurd h List.not_mem_nil

end Builder

theorem Model.IsBuilt.wellNamed {m : Model} (h : m.IsBuilt) : m.symbols.WellNamed := by
  obtain ⟨prefixOverride, events, hread⟩ := h
  obtain ⟨b, hfeed, hfinish⟩ := exists_of_ofEvents hread
  obtain ⟨rfl, -, -⟩ := Builder.eq_of_finish hfinish
  exact ((Builder.namesTables_start prefixOverride).feedAll hfeed).symbols

end SchemaBinding
