import SchemaBinding.Code.Target
import SchemaBinding.Proofs.Code.Identifiers
import SchemaBinding.Proofs.Code.NameLetters
import SchemaBinding.Proofs.Resolve.Disambiguation

/-!
# `SchemaBinding.Proofs.Code.Completed`: when structs can be written

Writing structs fails at a name that makes no identifier, and at a bound that is no finite number. It fails for no other
reason: which calls can be followed is a property of each call alone (`Call.IsWritable`), and a block or a whole file can
be written if and only if each of its calls can be (`StructWriter.isOk_steps_block`, `StructWriter.isOk_steps_blocks`).

For a schema this means that the names of each type, its elements and its attributes have letters that make identifiers,
and that the restrictions on its values are finite (`Run.HasIdentifiers`, `Model.IsResolved.code_structs_iff`). A schema
without a name table may violate this with names that are legal in a schema. The name `_1` is one of them.
-/

set_option autoImplicit false

namespace SchemaBinding

open Identifier (IsFieldName IsTypeName IsPartName)

/-! ### Bounds -/

/-- The text is no number, or a finite one. -/
def IsFiniteBound (text : String) : Prop :=
  ∀ number, NumberText.read? (Text.trimmed text.toList) = some number →
    ∃ d, number = .decimal d ∧ (Binary64.ofDecimal? d).isSome = true

/-- Both bounds are finite. -/
def Facets.HasFiniteBounds (f : Facets) : Prop :=
  (∀ text ∈ f.minimum, IsFiniteBound text) ∧ ∀ text ∈ f.maximum, IsFiniteBound text

namespace Structs

variable {style : AccessorStyle}

theorem isOk_bound? {text : Option String} : (∃ b, bound? text = .ok b) ↔ ∀ t ∈ text, IsFiniteBound t := by
  cases text with
  | none => exact iff_of_true ⟨none, rfl⟩ (by simp)
  | some t =>
      have hone : (∀ t' ∈ some t, IsFiniteBound t') ↔ IsFiniteBound t := by simp
      rw [hone]
      unfold bound? IsFiniteBound
      rw [Option.bind_some]
      cases NumberText.read? (Text.trimmed t.toList) with
      | none => exact iff_of_true ⟨none, rfl⟩ (by simp)
      | some number =>
          cases number with
          | decimal d => cases hfinite : Binary64.ofDecimal? d <;> simp [hfinite]
          | infinite => simp
          | notANumber => simp

theorem isOk_checks {f : Facets} : (∃ cs, checks f = .ok cs) ↔ f.HasFiniteBounds :=
  isOk_bind isOk_bound? fun _ _ => isOk_bind_of_total isOk_bound? fun _ _ => ⟨_, rfl⟩

/-! ### Structs and their members -/

theorem isOk_opened {base : Option String} {name : String} :
    (∃ s, opened base name = .ok s) ↔ (∀ parent, base = some parent → IsTypeName parent) ∧ IsTypeName name := by
  refine isOk_bind ?_ fun _ _ => isOk_bind_of_total Identifier.isOk_ofType fun _ _ => ⟨_, rfl⟩
  cases base with
  | none => exact iff_of_true ⟨none, rfl⟩ (by simp)
  | some parent =>
      have hmap : Option.mapM Identifier.ofType (some parent) = (Identifier.ofType parent).map some := rfl
      rw [hmap, isOk_map, Identifier.isOk_ofType]
      simp

theorem isOk_valueType {owner : Identifier} {f : Field} :
    (∃ value, valueType owner f = .ok value) ↔ ∀ name, f.type = .complex name → IsTypeName name := by
  unfold valueType
  cases f.type with
  | primitive p => simp
  | any => simp
  | complex name =>
      simp only [FieldType.complex.injEq, forall_eq']
      exact isOk_bind_of_total Identifier.isOk_ofType fun _ _ => ⟨_, rfl⟩

/-- The accessors of a field need no more than the field itself. -/
theorem exists_accessors {f : Field} (haccessor : f.accessor = style.accessor f.name) (hname : IsFieldName f.name)
    (field : Identifier) (type value : StructType) : ∃ methods, accessors f field type value = .ok methods := by
  have hverb : ∀ verb ∈ Identifier.verbs, ∃ i, Identifier.ofAccessor verb f.accessor = .ok i := by
    intro verb hverb
    rw [haccessor]
    exact Identifier.isOk_ofAccessor style hverb hname
  obtain ⟨getter, hgetter⟩ := hverb "get" (by decide)
  obtain ⟨setter, hsetter⟩ := hverb "set" (by decide)
  obtain ⟨adder, hadder⟩ := hverb "add" (by decide)
  obtain ⟨inserter, hinserter⟩ := hverb "insert" (by decide)
  obtain ⟨remover, hremover⟩ := hverb "remove" (by decide)
  unfold accessors
  rw [hgetter, hsetter, hadder, hinserter, hremover]
  cases f.isCollection <;> exact ⟨_, rfl⟩

theorem isOk_withField {s : Struct} {f : Field} (haccessor : f.accessor = style.accessor f.name) :
    (∃ s', withField s f = .ok s') ↔ IsFieldName f.name ∧ ∀ name, f.type = .complex name → IsTypeName name := by
  refine isOk_bind Identifier.isOk_ofField fun name hname => isOk_bind_of_total isOk_valueType fun value _ => ?_
  obtain ⟨methods, hmethods⟩ :=
    exists_accessors haccessor (Identifier.isOk_ofField.mp ⟨name, hname⟩) name (fieldType f value) value
  exact ⟨_, congrArg (· >>= _) hmethods⟩

theorem isOk_withValidator {s : Struct} {d : SimpleTypeDef} :
    (∃ s', withValidator s d = .ok s') ↔ IsPartName d.name ∧ d.facets.HasFiniteBounds :=
  isOk_bind Identifier.isOk_ofValidator fun _ _ => isOk_bind_of_total isOk_checks fun _ _ => ⟨_, rfl⟩

end Structs

/-! ### Calls -/

/-- The names that the call says make identifiers, and its bounds are finite. -/
def Call.IsWritable : Call → Prop
  | beginType base name => (∀ parent, base = some parent → IsTypeName parent) ∧ IsTypeName name
  | field f => IsFieldName f.name ∧ ∀ name, f.type = .complex name → IsTypeName name
  | validator d => IsPartName d.name ∧ d.facets.HasFiniteBounds
  | _ => True

/-- The accessors of all fields are named in this style. -/
def Call.HasStyle (style : AccessorStyle) (calls : List Call) : Prop :=
  ∀ f, .field f ∈ calls → f.accessor = style.accessor f.name

namespace StructWriter

variable {style : AccessorStyle} {w : StructWriter} {s : Struct}

/-- A call inside of a type can be followed if and only if its names make identifiers. -/
theorem isOk_step_inside {c : Call} (hinside : c.isBoundary = false) (hopen : w.current = some s)
    (hstyle : Call.HasStyle style [c]) : (∃ w', w.step c = .ok w') ↔ c.IsWritable := by
  unfold step
  rw [hopen]
  cases c with
  | beginType | endType => cases hinside
  | documentation | comparators | userMethods | serializeHooks | deserializeHooks => exact iff_of_true ⟨_, rfl⟩ trivial
  | field f => exact isOk_bind_of_total (Structs.isOk_withField (hstyle f List.mem_cons_self)) fun _ _ => ⟨_, rfl⟩
  | validator d => exact isOk_bind_of_total Structs.isOk_withValidator fun _ _ => ⟨_, rfl⟩

theorem isOk_steps_inside {calls : List Call} (hinside : ∀ c ∈ calls, c.isBoundary = false) (hopen : w.current = some s)
    (hstyle : Call.HasStyle style calls) : (∃ w', w.steps calls = .ok w') ↔ ∀ c ∈ calls, c.IsWritable := by
  induction calls generalizing w s with
  | nil => exact iff_of_true ⟨w, rfl⟩ (by simp)
  | cons c rest ih =>
      rw [List.forall_mem_cons] at hinside
      have hfirst : Call.HasStyle style [c] := fun f hf => hstyle f (List.mem_singleton.mp hf ▸ List.mem_cons_self)
      have hrest : Call.HasStyle style rest := fun f hf => hstyle f (List.mem_cons_of_mem _ hf)
      rw [List.forall_mem_cons]
      refine isOk_bind (isOk_step_inside hinside.1 hopen hfirst) fun next hnext => ?_
      -- The struct stays open.
      obtain ⟨s', hopen', -, -⟩ := step_inside hinside.1 hopen hnext
      exact ih hinside.2 hopen' hrest

/-- A block of calls can be followed if and only if each of them can. -/
theorem isOk_steps_block {base : Option String} {name : String} {block : List Call} (hblock : Call.IsBlock base name block)
    (hstyle : Call.HasStyle style block) : (∃ w', w.steps block = .ok w') ↔ ∀ c ∈ block, c.IsWritable := by
  obtain ⟨body, hbody⟩ := hblock
  have hinside : Call.HasStyle style body := fun f hf =>
    hstyle f (List.mem_cons_of_mem _ (List.mem_append_left _ hf))
  rw [List.forall_mem_cons, List.forall_mem_append, List.forall_mem_singleton]
  refine isOk_bind (isOk_bind_of_total Structs.isOk_opened fun _ _ => ⟨_, rfl⟩) fun w₁ hbegin => ?_
  obtain ⟨s₁, -, hbegin⟩ := exists_of_bind_eq_ok hbegin
  cases hbegin
  have hsteps : ∀ w : StructWriter, w.steps (body ++ [.endType]) = w.steps body >>= fun next => next.steps [.endType] :=
    fun w => List.foldlM_append
  change (∃ y, StructWriter.steps _ (body ++ [.endType]) = .ok y) ↔ _
  rw [hsteps]
  exact isOk_bind (isOk_steps_inside hbody rfl hinside) fun _ _ => iff_of_true ⟨_, rfl⟩ trivial

/-- Blocks of calls can be followed if and only if each call can. -/
theorem isOk_steps_blocks {α : Type} {entries : List α} {block : α → List Call}
    (hblock : ∀ entry ∈ entries, (∃ base name, Call.IsBlock base name (block entry)) ∧
      Call.HasStyle style (block entry)) :
    (∃ w', w.steps (entries.flatMap block) = .ok w') ↔ ∀ entry ∈ entries, ∀ c ∈ block entry, c.IsWritable := by
  induction entries generalizing w with
  | nil => exact iff_of_true ⟨w, rfl⟩ (by simp)
  | cons entry rest ih =>
      rw [List.forall_mem_cons] at hblock
      obtain ⟨⟨⟨base, name, hentry⟩, hstyle⟩, hrest⟩ := hblock
      have hsteps : w.steps ((entry :: rest).flatMap block) =
          w.steps (block entry) >>= fun next => next.steps (rest.flatMap block) := List.foldlM_append
      rw [hsteps, List.forall_mem_cons]
      exact isOk_bind (isOk_steps_block hentry hstyle) fun _ _ => ih hrest

end StructWriter

/-- A writer of the kind of structs follows calls as a writer of structs does. -/
theorem Writer.foldlM_step_structs (calls : List Call) (w : StructWriter) :
    calls.foldlM Writer.step (.structs w) = (w.steps calls).map Writer.structs := by
  induction calls generalizing w with
  | nil => rfl
  | cons c rest ih =>
      have hsteps : w.steps (c :: rest) = w.step c >>= fun next => next.steps rest := rfl
      rw [List.foldlM_cons, hsteps, Writer.step]
      cases w.step c with
      | error e => rfl
      | ok next => exact ih next

theorem Target.isOk_code_structs {calls : List Call} :
    (∃ code, Target.structs.code calls = .ok code) ↔ ∃ w, StructWriter.steps {} calls = .ok w := by
  rw [Target.code, isOk_map, Writer.ofTarget, Writer.foldlM_step_structs, isOk_map]

/-! ### Types -/

/-- The accessors of a field are named in the style of the configuration. -/
theorem accessor_of_mem_fields {m : Model} {style : AccessorStyle} {n : Node} {f : Field} (h : f ∈ fields m style n) :
    f.accessor = style.accessor f.name := by
  unfold fields at h
  rcases List.mem_append.mp h with h | hcontent
  · rcases List.mem_append.mp h with hchild | hattribute
    · obtain ⟨child, -, rfl | rfl⟩ := mem_childFields hchild <;> rfl
    · obtain ⟨d, -, rfl⟩ := List.mem_map.mp hattribute
      rfl
  · unfold contentFields at hcontent
    simp only [List.mem_append] at hcontent
    rcases hcontent with (h | h) | h <;> split at h
    all_goals first | cases List.not_mem_nil h | (obtain rfl := List.mem_singleton.mp h; rfl)

set_option maxRecDepth 20000 in
/-- The names that no declaration gives to fields make identifiers. -/
theorem isFieldName_of_fixed :
    ∀ name ∈ ["valueOf_", "anyAttributes_", "extensiontype_", "anytypeobjs_"], IsFieldName name := by
  decide

theorem isFieldName_of_mem_contentNames (n : Node) : ∀ name ∈ n.contentNames, IsFieldName name := by
  intro name hname
  refine isFieldName_of_fixed name ?_
  unfold Node.contentNames at hname
  simp only [List.mem_append] at hname
  rcases hname with (h | h) | h <;> split at h <;> simp_all

namespace Run

/-- The names of a type and of its content make identifiers, and the restrictions on its values are finite. -/
structure HasIdentifiers (m : Model) (config : Config) (id : NodeId) : Prop where
  type : IsTypeName (m.node id).cleanName
  elements : ∀ child ∈ m.children id, (m.node child).isWildcard = false → IsFieldName (m.node child).cleanName
  attributes : ∀ d ∈ (m.node id).attributes.values, IsFieldName d.cleanName
  /-- The types of elements. -/
  elementTypes : ∀ child ∈ m.children id, (m.node child).isWildcard = false →
    ∀ name, fieldType m (m.node child).resolvedType = .complex name → IsTypeName name
  /-- The restrictions. -/
  validators : ∀ d, .validator d ∈ typeBlock m config id → IsPartName d.name ∧ d.facets.HasFiniteBounds

variable {m : Model} {config : Config}

theorem hasStyle_typeBlock (id : NodeId) : Call.HasStyle config.accessorStyle (typeBlock m config id) := fun _ hf =>
  accessor_of_mem_fields (field_mem_typeCalls.mp hf)

/-- Which names fields have besides the fixed ones. -/
theorem isFieldName_fields_iff {style : AccessorStyle} {id : NodeId} :
    (∀ f ∈ fields m style (m.node id), IsFieldName f.name) ↔
      (∀ child ∈ m.children id, (m.node child).isWildcard = false → IsFieldName (m.node child).cleanName) ∧
        ∀ d ∈ (m.node id).attributes.values, IsFieldName d.cleanName := by
  have hwildcard : IsFieldName "anytypeobjs_" := isFieldName_of_fixed _ (by simp)
  have hmap : ∀ fs : List Field, (∀ f ∈ fs, IsFieldName f.name) ↔ ∀ name ∈ fs.map (·.name), IsFieldName name :=
    fun fs => by simp
  have hchildren : (∀ f ∈ childFields m style false ((m.children id).map m.node), IsFieldName f.name) ↔
      ∀ child ∈ m.children id, (m.node child).isWildcard = false → IsFieldName (m.node child).cleanName := by
    have hnames : ((childFields m style false ((m.children id).map m.node)).map (·.name)).Perm _ := names_childFields false _
    rw [hmap]
    simp only [hnames.mem_iff]
    rw [List.forall_mem_append, and_iff_left, List.forall_mem_map]
    · simp
    · intro name hname
      split at hname
      · exact List.mem_singleton.mp hname ▸ hwildcard
      · cases List.not_mem_nil hname
  have hattributes : (∀ f ∈ (m.node id).attributes.values.map (attributeField style), IsFieldName f.name) ↔
      ∀ d ∈ (m.node id).attributes.values, IsFieldName d.cleanName := by
    simp [attributeField, plainField]
  have hcontent : ∀ f ∈ contentFields m style (m.node id), IsFieldName f.name := by
    rw [hmap, names_contentFields]
    exact isFieldName_of_mem_contentNames _
  unfold fields
  rw [List.forall_mem_append, List.forall_mem_append, and_iff_left hcontent]
  exact and_congr hchildren hattributes

/-- The calls for a declaration can be followed if and only if the names of the type, of its base and of its content make
identifiers. -/
theorem isWritable_typeBlock_iff {id : NodeId} :
    (∀ c ∈ typeBlock m config id, c.IsWritable) ↔
      (∀ base, parent? m id = some base → IsTypeName (m.node base).cleanName) ∧ HasIdentifiers m config id := by
  have htypes : (∀ f ∈ fields m config.accessorStyle (m.node id), ∀ name, f.type = .complex name → IsTypeName name) ↔
      ∀ child ∈ m.children id, (m.node child).isWildcard = false →
        ∀ name, fieldType m (m.node child).resolvedType = .complex name → IsTypeName name := by
    constructor
    · intro h child hchild hwildcard name htype
      refine h (elementField m config.accessorStyle (m.node child)) ?_ name htype
      exact (mem_fields_iff_of_complex htype).mpr ⟨child, hchild, hwildcard, rfl⟩
    · intro h f hf name htype
      obtain ⟨child, hchild, hwildcard, rfl⟩ := (mem_fields_iff_of_complex htype).mp hf
      exact h child hchild hwildcard name htype
  constructor
  · intro h
    obtain ⟨hbase, htype⟩ := h _ (beginType_mem_typeBlock.mpr ⟨rfl, rfl⟩)
    have hfield : ∀ f ∈ fields m config.accessorStyle (m.node id), _ := fun f hf => h _ (field_mem_typeCalls.mpr hf)
    obtain ⟨helements, hattributes⟩ := isFieldName_fields_iff.mp fun f hf => (hfield f hf).1
    refine ⟨fun base hparent => hbase _ (by rw [hparent]; rfl), htype, helements, hattributes, ?_, fun d hd => h _ hd⟩
    exact htypes.mp fun f hf => (hfield f hf).2
  · rintro ⟨hbase, h⟩ c hc
    cases c with
    | beginType base name =>
        obtain ⟨rfl, rfl⟩ := beginType_mem_typeBlock.mp hc
        refine ⟨fun parent hparent => ?_, h.type⟩
        obtain ⟨node, hnode, rfl⟩ := Option.map_eq_some_iff.mp hparent
        obtain ⟨base, hbase', rfl⟩ := Option.map_eq_some_iff.mp hnode
        exact hbase base hbase'
    | field f =>
        have hf := field_mem_typeCalls.mp hc
        exact ⟨isFieldName_fields_iff.mpr ⟨h.elements, h.attributes⟩ f hf, htypes.mpr h.elementTypes f hf⟩
    | validator d => exact h.validators d hc
    | _ => trivial

/-- The code can be written if and only if the names of each generated type make identifiers. -/
theorem isOk_code_structs_iff :
    (∃ code, Target.structs.code (generate config m).calls = .ok code) ↔
      ∀ id, Begins m config id → HasIdentifiers m config id := by
  obtain ⟨begun, hbegun⟩ := (reached_atRest m config).exists_recorded
  have hcalls : (generate config m).calls = begun.flatMap (typeBlock m config) := hbegun.calls
  have hblocks : ∀ id ∈ begun, (∃ base name, Call.IsBlock base name (typeBlock m config id)) ∧
      Call.HasStyle config.accessorStyle (typeBlock m config id) := fun id _ =>
    ⟨⟨_, _, isBlock_typeCalls m config _ _⟩, hasStyle_typeBlock id⟩
  rw [Target.isOk_code_structs, hcalls, StructWriter.isOk_steps_blocks hblocks]
  simp only [isWritable_typeBlock_iff, hbegun.mem_iff]
  refine ⟨fun h id hid => (h id hid).2, fun h id hid => ⟨fun base hbase => ?_, h id hid⟩⟩
  -- The base goes by the clean name of a type that is generated, too.
  obtain ⟨named, -, -, -, hnamed, hclean, -, -⟩ := hid.exists_blocks hbase
  exact hclean ▸ (h named hnamed).type

end Run

/-! ### Names of a schema -/

set_option maxRecDepth 20000 in
theorem isPartName_attributeSuffix (i : Nat) : IsPartName (attributeSuffix i) := by
  have hword : IsPartName "_attr" := by decide
  unfold attributeSuffix
  split
  · exact hword
  · have hnumber : IsPartName (toString (i + 1)) := by
      refine List.all_eq_true.mpr fun c hc => ?_
      have hmem : c ∈ (toString (i + 1)).toList := List.mem_of_mem_filter hc
      rw [Nat.toString_eq_repr, Nat.toList_repr] at hmem
      exact Identifier.isContinue_of_isDigit (Nat.isDigit_of_mem_toDigits (by decide) (by decide) hmem)
    rw [IsPartName, Text.letters_append, List.all_append, hword, hnumber]
    rfl

/-- A suffix does no harm to a name that makes an identifier. -/
theorem isFieldName_suffixed {name : String} (h : IsFieldName name) (i : Nat) : IsFieldName (name ++ attributeSuffix i) := by
  rw [IsFieldName, Identifier.isValid_eq, Bool.and_eq_true] at h ⊢
  have hne : Text.letters name ≠ [] := by
    intro hnil
    rw [hnil] at h
    cases h.1
  have hsuffix : (Text.letters (attributeSuffix i)).all Identifier.isContinue = true := isPartName_attributeSuffix i
  rw [Text.letters_append, List.head?_append_of_ne_nil _ hne, List.all_append, h.2, hsuffix]
  exact ⟨h.1, rfl⟩

theorem letters_clean (name : String) : Text.letters (NameTable.clean ∅ name) = Text.letters name :=
  Text.letters_cleanup name

/-- **When structs can be written.** The code for a schema can be written if and only if the names of each generated type
make identifiers and its restrictions are finite. Without a name table only the letters of the declared names count:
those of a declaration are what its clean name has, and an attribute whose name makes a field may have a suffix. -/
theorem Model.IsResolved.code_structs_iff {r : Model} (hr : r.IsResolved ∅) (config : Config) :
    ((∃ code, Target.structs.code (generate config r).calls = .ok code) ↔
        ∀ id, Run.Begins r config id → Run.HasIdentifiers r config id) ∧
      ∀ id ∈ r.declarations, Text.letters (r.node id).cleanName = Text.letters (r.node id).name ∧
        ∀ d ∈ (r.node id).attributes.values, IsFieldName d.name → IsFieldName d.cleanName := by
  refine ⟨Run.isOk_code_structs_iff, fun id hid => ⟨?_, fun d hd hname => ?_⟩⟩
  · rw [hr.cleanName_eq hid, letters_clean]
  · have hclean : IsFieldName (NameTable.clean ∅ d.name) := by
      rwa [IsFieldName, letters_clean]
    rcases hr.cleanName_of_attribute_cases hid d hd with heq | ⟨i, heq⟩
    · rwa [heq]
    · rw [heq]
      exact isFieldName_suffixed hclean i

/-- The struct of a type with one element can be written. -/
theorem code_structs_iff_orderType :
    orderType.IsResolved ∅ ∧ (∃ code, Target.structs.code (generate {} orderType).calls = .ok code) ∧
      (∀ id, Run.Begins orderType {} id → Run.HasIdentifiers orderType {} id) ∧
      ∀ id ∈ orderType.declarations, Text.letters (orderType.node id).cleanName = Text.letters (orderType.node id).name ∧
        ∀ d ∈ (orderType.node id).attributes.values, IsFieldName d.name → IsFieldName d.cleanName := by
  obtain ⟨hbuilt, hresolved⟩ := resolve_writtenOrderType
  have hr : orderType.IsResolved ∅ := ⟨writtenOrderType, hbuilt, hresolved⟩
  have hcode : (Target.structs.code (generate {} orderType).calls).toOption.isSome = true := by decide +kernel
  obtain ⟨code, hcode⟩ := Option.isSome_iff_exists.mp hcode
  have hcompleted : ∃ code, Target.structs.code (generate {} orderType).calls = .ok code :=
    ⟨code, eq_ok_of_toOption_eq_some hcode⟩
  obtain ⟨hiff, hnames⟩ := hr.code_structs_iff {}
  exact ⟨hr, hcompleted, hiff.mp hcompleted, hnames⟩

/-! ### A legal name that makes no identifier -/

/-- Characters that may begin a name without a prefix. -/
def CharSet.nameStart : CharSet where
  ranges := [
    (0x41, 0x5A), (0x5F, 0x5F), (0x61, 0x7A), (0xC0, 0xD6), (0xD8, 0xF6), (0xF8, 0x2FF), (0x370, 0x37D),
    (0x37F, 0x1FFF), (0x200C, 0x200D), (0x2070, 0x218F), (0x2C00, 0x2FEF), (0x3001, 0xD7FF), (0xF900, 0xFDCF),
    (0xFDF0, 0xFFFD), (0x10000, 0xEFFFF)]

/-- Further characters of such a name. -/
def CharSet.nameContinue : CharSet where
  ranges := [(0x2D, 0x2E), (0x30, 0x39), (0xB7, 0xB7), (0x300, 0x36F), (0x203F, 0x2040)]

/-- Whether a name is one without a prefix, as a schema may use it (`NCName`). -/
def isLegalName (name : String) : Bool :=
  match name.toList with
  | [] => false
  | c :: rest =>
    CharSet.nameStart.contains c && rest.all fun d => CharSet.nameStart.contains d || CharSet.nameContinue.contains d

/-- The names of all elements, types and groups are legal, and those of their attributes. Only wildcards go without one. -/
structure Model.HasLegalNames (m : Model) : Prop where
  nodes : ∀ n ∈ m.nodes.toList, (n.kind ≠ .wildcard → isLegalName n.name = true) ∧
    ∀ d ∈ n.attributes.values, isLegalName d.name = true
  simpleTypes : ∀ d ∈ m.symbols.simpleTypes.values, isLegalName d.name = true
  attributeGroups : ∀ group ∈ m.symbols.attributeGroups.values, isLegalName group.name = true ∧
    ∀ d ∈ group.attributes.values, isLegalName d.name = true

/-- A type with an element that is called by a number. -/
def writtenNumbered : Model where
  nodes := #[taggedNode .schema "schema" false [⟨1⟩], taggedNode .complexType "Order" true [⟨2⟩],
    stringElement "_1" false]
  builtins := ⟨""⟩

/-- The same schema when it is resolved. -/
def numbered : Model where
  nodes := #[taggedNode .schema "schema" false [⟨1⟩],
    { taggedNode .complexType "Order" true [⟨2⟩] with resolvedType := some (.named "Order"), isComplex := true },
    typedElement "_1" false]
  symbols := { elements := .ofList [("Order", ⟨1⟩)] }
  builtins := ⟨""⟩

set_option maxRecDepth 20000 in
theorem resolve_writtenNumbered : writtenNumbered.IsBuilt ∧ (resolve ∅ writtenNumbered).model = numbered := by
  let order := enclosed "complexType" [("name", "Order")] (enclosed "element" [("name", "_1"), ("type", "string")] [])
  have hread : (Model.ofEvents none (enclosed "schema" [] order)).toOption = some writtenNumbered := by decide
  let registered : Model := { writtenNumbered with symbols := numbered.symbols }
  have hids : writtenNumbered.declarations = [⟨1⟩, ⟨2⟩] := by cbv
  have hregistered : (Resolved.forEach writtenNumbered [⟨1⟩, ⟨2⟩] (registerNode ∅)).model = registered := by
    decide
  have htyped : (Resolved.forEach registered [⟨1⟩, ⟨2⟩] resolveDeclaration).model = numbered := by
    decide
  exact ⟨Model.isBuilt_of_toOption_eq hread, Model.resolve_of_passes (by cbv) hids hregistered htyped (by cbv) (by cbv)⟩

/-- The underscore of the element's name is lost, and a number is no identifier. -/
theorem not_completed_numbered :
    writtenNumbered.IsBuilt ∧ writtenNumbered.HasLegalNames ∧ (resolve ∅ writtenNumbered).model = numbered ∧
      Target.structs.code (generate {} numbered).calls = .error .numericIdentifier := by
  obtain ⟨hbuilt, hresolved⟩ := resolve_writtenNumbered
  exact ⟨hbuilt, ⟨by decide +kernel, by decide +kernel, by decide +kernel⟩, hresolved, by decide +kernel⟩

end SchemaBinding
