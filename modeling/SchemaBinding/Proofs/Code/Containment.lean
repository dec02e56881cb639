import SchemaBinding.Proofs.Code.Structs
import SchemaBinding.Proofs.Generation.Blocks
import SchemaBinding.Proofs.Generation.Fields
import SchemaBinding.Proofs.Resolve.Content

/-!
# `SchemaBinding.Proofs.Code.Containment`: which structs hold which by value

A struct that holds itself by value, in a field or through other structs, would have no finite size. The writer of structs
puts a value of the struct's own type behind a pointer, and looks no further. So what structs hold by value is what the
types of the schema contain once: the type that they derive from, and the types of elements that come once at most and have
another type than their own (`Run.ContainsOnce`, `holds_iff`).

Types that derive from each other make no circle, since a base is generated first. But elements make one as soon as two
types contain each other, and then the structs are of infinite size (`isFinite_iff`).
-/

set_option autoImplicit false

namespace SchemaBinding

/-! ### Values in structs -/

/-- The struct that a value of the type has inside of it. -/
def StructType.held? : StructType → Option Identifier
  | struct name => some name
  | optional value => value.held?
  | _ => none

/-- The structs that the fields of a struct have inside of them. -/
def Struct.held (s : Struct) : List Identifier := s.fields.filterMap (·.type.held?)

/-- The struct `a` of the file has the struct `b` inside of it. -/
def StructFile.Holds (file : StructFile) (a b : Identifier) : Prop := ∃ s ∈ file.structs, s.name = a ∧ b ∈ s.held

/-- No struct of the file has itself inside of it, however far inside. -/
def StructFile.IsFinite (file : StructFile) : Prop := ∀ a, ¬ Relation.TransGen file.Holds a a

/-- The field has one value at most, which is of the type `b` and not of the type `owner`. -/
def Field.HasOnce (owner b : Identifier) (f : Field) : Prop :=
  f.kind ≠ .anyAttributes ∧ f.kind ≠ .extensionType ∧ f.repeated = false ∧
    ∃ name, f.type = .complex name ∧ Identifier.ofType name = .ok b ∧ b ≠ owner

namespace Structs

/-- A value that is not behind a pointer is of another type than the struct. -/
theorem held?_valueType_iff {owner b : Identifier} {f : Field} {value : StructType} (h : valueType owner f = .ok value)
    (hsingle : f.repeated = false) :
    value.held? = some b ↔ ∃ name, f.type = .complex name ∧ Identifier.ofType name = .ok b ∧ b ≠ owner := by
  unfold valueType at h
  cases htype : f.type with
  | primitive p =>
      rw [htype] at h
      cases h
      cases p.structName? <;> simp [StructType.held?]
  | any =>
      rw [htype] at h
      cases h
      simp [StructType.held?]
  | complex name =>
      rw [htype] at h
      obtain ⟨ident, hident, h⟩ := exists_of_bind_eq_ok h
      cases h
      have hname : (∃ name', FieldType.complex name = .complex name' ∧ Identifier.ofType name' = .ok b ∧ b ≠ owner) ↔
          ident = b ∧ b ≠ owner := by
        simp [hident]
      rw [hname, hsingle]
      by_cases howner : ident = owner
      · simp only [howner, decide_true, Bool.not_false, Bool.and_self, if_true, StructType.held?]
        simp [eq_comm]
      · simp only [howner, decide_false, Bool.false_and, Bool.false_eq_true, if_false, StructType.held?,
          Option.some.injEq]
        exact ⟨fun h => ⟨h, h ▸ howner⟩, And.left⟩

theorem held?_fieldType_iff {owner b : Identifier} {f : Field} {value : StructType} (h : valueType owner f = .ok value) :
    (fieldType f value).held? = some b ↔ f.HasOnce owner b := by
  unfold fieldType Field.HasOnce
  cases hrepeated : f.repeated with
  | true => cases f.kind <;> simp [StructType.held?]
  | false =>
      rw [← held?_valueType_iff h hrepeated]
      cases f.kind <;> cases f.optional <;> simp [StructType.held?]

end Structs

namespace Struct

variable {s s' : Struct} {b : Identifier}

theorem mem_held_append {fields new : List StructField} :
    b ∈ (fields ++ new).filterMap (·.type.held?) ↔
      b ∈ fields.filterMap (·.type.held?) ∨ ∃ f ∈ new, f.type.held? = some b := by
  simp [List.mem_filterMap]

theorem After.mem_held_iff {c : Call} (h : s.After c s') :
    b ∈ s'.held ↔ b ∈ s.held ∨ ∃ f, c = .field f ∧ f.HasOnce s.name b := by
  unfold held
  cases h with
  | field h =>
      obtain ⟨name, value, -, hvalue, hfields, -, -⟩ := Structs.fields_withField h
      rw [hfields, mem_held_append]
      simp [Structs.held?_fieldType_iff hvalue]
  | other hc hfields =>
      rw [hfields]
      simp [hc]

theorem AfterAll.mem_held_iff {calls : List Call} (h : s.AfterAll calls s') :
    b ∈ s'.held ↔ b ∈ s.held ∨ ∃ f, .field f ∈ calls ∧ f.HasOnce s.name b := by
  induction h with
  | nil => simp
  | cons hfirst _ ih =>
      rw [ih, hfirst.mem_held_iff, hfirst.name_eq, or_assoc]
      simp only [List.mem_cons, or_and_right, exists_or, eq_comm]

/-- A struct has the identifier of the type that its block begins. -/
theorem MadeOf.name_eq {block : List Call} (h : MadeOf block s) {base : Option String} {name : String}
    (hbegin : .beginType base name ∈ block) : Identifier.ofType name = .ok s.name := by
  cases h with
  | mk hbody hopened h =>
      obtain ⟨-, -, hname, -⟩ := Structs.fields_opened hopened
      rcases List.mem_cons.mp hbegin with heq | hbegin
      · cases heq
        rw [hname, h.name_eq]
      · rcases List.mem_append.mp hbegin with hbegin | hbegin
        · exact absurd (hbody _ hbegin) (by simp [Call.isBoundary])
        · simp at hbegin

/-- A struct has the base of its block inside of it, and the values of the fields that have one at most. -/
theorem MadeOf.mem_held_iff {block : List Call} (h : MadeOf block s) :
    b ∈ s.held ↔ (∃ base name, .beginType (some base) name ∈ block ∧ Identifier.ofType base = .ok b) ∨
      ∃ f, .field f ∈ block ∧ f.HasOnce s.name b := by
  cases h with
  | @mk base name body s₀ _ hbody hopened h =>
      obtain ⟨parent, hparent, -, hfields⟩ := Structs.fields_opened hopened
      have hbegin : ∀ base' name', Call.beginType (some base') name' ∈ .beginType base name :: (body ++ [.endType]) ↔
          base = some base' ∧ name = name' := by
        intro base' name'
        have hinside : Call.beginType (some base') name' ∉ body := fun hmem => by cases hbody _ hmem
        simp [hinside, eq_comm]
      have hbase : b ∈ s₀.held ↔ ∃ base', base = some base' ∧ Identifier.ofType base' = .ok b := by
        rw [held, hfields]
        cases base with
        | none =>
            cases hparent
            simp
        | some base =>
            obtain ⟨ident, hident, hparent⟩ := exists_of_map_eq_ok hparent
            cases hparent
            simp [Structs.baseField, StructType.held?, hident, eq_comm]
      rw [h.mem_held_iff, hbase, h.name_eq]
      simp [hbegin]

end Struct

/-! ### Types that contain each other -/

namespace Run

section relations
variable (m : Model) (config : Config)

/-- The type `a` is generated and derives from the type `b`. -/
def Derives (a b : Identifier) : Prop :=
  ∃ id base, Begins m config id ∧ parent? m id = some base ∧ Identifier.ofType (m.node id).cleanName = .ok a ∧
    Identifier.ofType (m.node base).cleanName = .ok b

/-- The type `a` is generated and has an element that comes once at most, of another type `b`. -/
def HasElement (a b : Identifier) : Prop :=
  ∃ id child name, Begins m config id ∧ child ∈ m.children id ∧ (m.node child).isWildcard = false ∧
    (m.node child).isRepeated = false ∧ fieldType m (m.node child).resolvedType = .complex name ∧
    Identifier.ofType (m.node id).cleanName = .ok a ∧ Identifier.ofType name = .ok b ∧ b ≠ a

/-- Each value of the type `a` has at most one of the type `b` right inside of it. -/
def ContainsOnce (a b : Identifier) : Prop := Derives m config a b ∨ HasElement m config a b

end relations

/-- Different names have different identifiers. -/
def IdentifiersApart (names : List String) : Prop :=
  ∀ name ∈ names, ∀ name' ∈ names, Identifier.ofType name = Identifier.ofType name' → name = name'

variable {m : Model} {config : Config} {a b : Identifier}

/-- The values that the fields of a type have inside of them are those of its elements. -/
theorem exists_field_hasOnce_iff {id : NodeId} :
    (∃ f, .field f ∈ typeBlock m config id ∧ f.HasOnce a b) ↔
      ∃ child name, child ∈ m.children id ∧ (m.node child).isWildcard = false ∧ (m.node child).isRepeated = false ∧
        fieldType m (m.node child).resolvedType = .complex name ∧ Identifier.ofType name = .ok b ∧ b ≠ a := by
  unfold typeBlock
  constructor
  · rintro ⟨f, hmem, -, -, hsingle, name, htype, hname, hne⟩
    rw [field_mem_typeCalls, mem_fields_iff_of_complex htype] at hmem
    obtain ⟨child, hchild, hwildcard, rfl⟩ := hmem
    exact ⟨child, name, hchild, hwildcard, hsingle, htype, hname, hne⟩
  · rintro ⟨child, name, hchild, hwildcard, hsingle, htype, hname, hne⟩
    refine ⟨elementField m config.accessorStyle (m.node child), ?_, by simp [elementField, plainField],
      by simp [elementField, plainField], hsingle, name, htype, hname, hne⟩
    rw [field_mem_typeCalls, mem_fields_iff_of_complex htype]
    exact ⟨child, hchild, hwildcard, rfl⟩

theorem beginType_mem_typeBlock {id : NodeId} {base : Option String} {name : String} :
    .beginType base name ∈ typeBlock m config id ↔
      base = ((parent? m id).map m.node).map (·.cleanName) ∧ name = (m.node id).cleanName := by
  have hfields : ∀ validated fs, Call.beginType base name ∉ fieldCalls m validated fs := by
    intro validated fs hmem
    cases isBoundary_fieldCalls m validated fs _ hmem
  simp [typeBlock, typeCalls, hfields]

/-- The struct of a declaration holds what the type contains once. -/
theorem mem_held_iff {id : NodeId} {s : Struct} (hs : Struct.MadeOf (typeBlock m config id) s) :
    Identifier.ofType (m.node id).cleanName = .ok s.name ∧
      (b ∈ s.held ↔ (∃ base, parent? m id = some base ∧ Identifier.ofType (m.node base).cleanName = .ok b) ∨
        ∃ child name, child ∈ m.children id ∧ (m.node child).isWildcard = false ∧ (m.node child).isRepeated = false ∧
          fieldType m (m.node child).resolvedType = .complex name ∧ Identifier.ofType name = .ok b ∧ b ≠ s.name) := by
  refine ⟨hs.name_eq (beginType_mem_typeBlock.mpr ⟨rfl, rfl⟩), ?_⟩
  rw [hs.mem_held_iff, exists_field_hasOnce_iff]
  simp only [beginType_mem_typeBlock]
  cases parent? m id <;> simp

/-- The structs of a file are those of the declarations that the run begins. -/
theorem exists_struct {file : StructFile} (hfile : structFile (generate config m).calls = .ok file) :
    (∀ id, Begins m config id → ∃ s ∈ file.structs, Struct.MadeOf (typeBlock m config id) s) ∧
      ∀ s ∈ file.structs, ∃ id, Begins m config id ∧ Struct.MadeOf (typeBlock m config id) s := by
  obtain ⟨begun, hbegun⟩ := (reached_atRest m config).exists_recorded
  have hcalls : (generate config m).calls = begun.flatMap (typeBlock m config) := hbegun.calls
  rw [hcalls] at hfile
  obtain ⟨hleft, hright⟩ :=
    exists_mem_of_forall₂ (exists_structs_madeOf (fun id _ => ⟨_, _, isBlock_typeCalls m config _ _⟩) hfile)
  refine ⟨fun id hid => hleft id (hbegun.mem_iff.mpr hid), fun s hs => ?_⟩
  obtain ⟨id, hid, hmade⟩ := hright s hs
  exact ⟨id, hbegun.begins id hid, hmade⟩

/-- Structs hold by value what their types contain once. -/
theorem holds_iff {file : StructFile} (hfile : structFile (generate config m).calls = .ok file) :
    file.Holds a b ↔ ContainsOnce m config a b := by
  obtain ⟨hstruct, hblock⟩ := exists_struct hfile
  constructor
  · rintro ⟨s, hs, rfl, hb⟩
    obtain ⟨id, hid, hmade⟩ := hblock s hs
    obtain ⟨hname, hheld⟩ := mem_held_iff (b := b) hmade
    rcases hheld.mp hb with ⟨base, hbase, hident⟩ | ⟨child, name, hchild, hwildcard, hsingle, htype, hident, hne⟩
    · exact Or.inl ⟨id, base, hid, hbase, hname, hident⟩
    · exact Or.inr ⟨id, child, name, hid, hchild, hwildcard, hsingle, htype, hname, hident, hne⟩
  · rintro (⟨id, base, hid, hbase, ha, hb⟩ | ⟨id, child, name, hid, hchild, hwildcard, hsingle, htype, ha, hb, hne⟩)
    all_goals
      obtain ⟨s, hs, hmade⟩ := hstruct id hid
      obtain ⟨hname, hheld⟩ := mem_held_iff (b := b) hmade
      obtain rfl : s.name = a := Except.ok.inj (hname.symm.trans ha)
    · exact ⟨s, hs, rfl, hheld.mpr (Or.inl ⟨base, hbase, hb⟩)⟩
    · exact ⟨s, hs, rfl, hheld.mpr (Or.inr ⟨child, name, hchild, hwildcard, hsingle, htype, hb, hne⟩)⟩

/-! ### Circles -/

/-- The type `b` is emitted before the type `a`. -/
def EmittedBefore (m : Model) (config : Config) (a b : Identifier) : Prop :=
  ∃ name ∈ (generate config m).report.emitted, ∃ name' ∈ (generate config m).report.emitted,
    Identifier.ofType name = .ok a ∧ Identifier.ofType name' = .ok b ∧
      (generate config m).report.emitted.idxOf name' < (generate config m).report.emitted.idxOf name

theorem Derives.emittedBefore (h : Derives m config a b) : EmittedBefore m config a b := by
  obtain ⟨id, base, hid, hbase, ha, hb⟩ := h
  obtain ⟨before, after, hemitted, hnew, hready⟩ := hid.exists_emitted_eq
  have hbefore := hready base hbase
  refine ⟨(m.node id).cleanName, by simp [hemitted], (m.node base).cleanName, by simp [hemitted, hbefore], ha, hb, ?_⟩
  rw [hemitted, List.idxOf_append_of_mem hbefore, List.idxOf_append_of_notMem hnew]
  exact Nat.lt_of_lt_of_le (List.idxOf_lt_length_of_mem hbefore) (Nat.le_add_right _ _)

section apart

variable (happart : IdentifiersApart (generate config m).report.emitted)
include happart

theorem emittedBefore_of_transGen (h : Relation.TransGen (Derives m config) a b) : EmittedBefore m config a b := by
  induction h with
  | single h => exact h.emittedBefore
  | tail _ h ih =>
      obtain ⟨first, hfirst, middle, hmiddle, ha, hb, hlt⟩ := ih
      obtain ⟨middle', hmiddle', last, hlast, hb', hc, hlt'⟩ := h.emittedBefore
      -- The identifier in the middle belongs to one name.
      obtain rfl : middle = middle' := happart middle hmiddle middle' hmiddle' (hb.trans hb'.symm)
      exact ⟨first, hfirst, last, hlast, ha, hc, Nat.lt_trans hlt' hlt⟩

/-- Types do not derive from themselves. -/
theorem not_transGen_derives (a : Identifier) : ¬ Relation.TransGen (Derives m config) a a := by
  intro h
  obtain ⟨first, hfirst, last, hlast, ha, ha', hlt⟩ := emittedBefore_of_transGen happart h
  obtain rfl := happart first hfirst last hlast (ha.trans ha'.symm)
  exact Nat.lt_irrefl _ hlt

/-- No type contains itself directly. -/
theorem not_containsOnce_self (a : Identifier) : ¬ ContainsOnce m config a a := by
  rintro (hderives | ⟨-, -, -, -, -, -, -, -, -, -, hne⟩)
  · exact not_transGen_derives happart a (.single hderives)
  · exact hne rfl

end apart

/-- **Structs are of finite size if and only if no two types contain each other.** Structs hold by value what their types
contain once. When different emitted names have different identifiers, no struct holds itself directly, and bases alone
lead back to no struct. -/
theorem isFinite_iff {file : StructFile} (hfile : structFile (generate config m).calls = .ok file) :
    (∀ a b, file.Holds a b ↔ ContainsOnce m config a b) ∧
      (IdentifiersApart (generate config m).report.emitted →
        (∀ a, ¬ file.Holds a a) ∧ (∀ a, ¬ Relation.TransGen (Derives m config) a a) ∧
          (file.IsFinite ↔ ∀ a b, a ≠ b → Relation.TransGen (ContainsOnce m config) a b →
            ¬ Relation.TransGen (ContainsOnce m config) b a)) := by
  have hholds : file.Holds = ContainsOnce m config := funext fun _ => funext fun _ => propext (holds_iff hfile)
  refine ⟨fun _ _ => holds_iff hfile, fun happart => ?_⟩
  rw [StructFile.IsFinite, hholds]
  refine ⟨not_containsOnce_self happart, not_transGen_derives happart, ?_, ?_⟩
  · intro hfinite a b _ hab hba
    exact hfinite a (hab.trans hba)
  · intro hapart a hloop
    -- The first step of a circle leads to another type, and the rest of it leads back.
    obtain ⟨b, hab, hba⟩ := Relation.TransGen.head'_iff.mp hloop
    have hne : a ≠ b := by
      rintro rfl
      exact not_containsOnce_self happart a hab
    rcases Relation.reflTransGen_iff_eq_or_transGen.mp hba with heq | hba
    · exact hne heq
    · exact hapart a b hne (.single hab) hba

end Run

/-! ### Two types with elements of each other -/

/-- Two types, each with an element of the other. The second type may go without it. -/
def writtenPartners : Model where
  nodes := #[taggedNode .schema "schema" false [⟨1⟩, ⟨3⟩], taggedNode .complexType "A" true [⟨2⟩],
    { stringElement "b" false with rawType := "B" }, taggedNode .complexType "B" true [⟨4⟩],
    { stringElement "a" false with rawType := "A", minOccurs := 0 }]
  builtins := ⟨""⟩

/-- The same schema when it is resolved. -/
def partners : Model where
  nodes := #[taggedNode .schema "schema" false [⟨1⟩, ⟨3⟩],
    { taggedNode .complexType "A" true [⟨2⟩] with resolvedType := some (.named "A"), isComplex := true },
    { stringElement "b" false with rawType := "B", resolvedType := some (.named "B"), isComplex := true },
    { taggedNode .complexType "B" true [⟨4⟩] with resolvedType := some (.named "B"), isComplex := true },
    { stringElement "a" false with
      rawType := "A", minOccurs := 0, resolvedType := some (.named "A"), isComplex := true }]
  symbols := { elements := .ofList [("A", ⟨1⟩), ("B", ⟨3⟩)] }
  builtins := ⟨""⟩

set_option maxRecDepth 20000 in
theorem resolve_writtenPartners : writtenPartners.IsBuilt ∧ (resolve ∅ writtenPartners).model = partners := by
  let types := enclosed "complexType" [("name", "A")] (enclosed "element" [("name", "b"), ("type", "B")] []) ++
    enclosed "complexType" [("name", "B")] (enclosed "element" [("name", "a"), ("type", "A"), ("minOccurs", "0")] [])
  have hread : (Model.ofEvents none (enclosed "schema" [] types)).toOption = some writtenPartners := by decide
  let registered : Model := { writtenPartners with symbols := partners.symbols }
  have hids : writtenPartners.declarations = [⟨1⟩, ⟨2⟩, ⟨3⟩, ⟨4⟩] := by cbv
  have hregistered : (Resolved.forEach writtenPartners [⟨1⟩, ⟨2⟩, ⟨3⟩, ⟨4⟩] (registerNode ∅)).model = registered := by
    decide
  have htyped : (Resolved.forEach registered [⟨1⟩, ⟨2⟩, ⟨3⟩, ⟨4⟩] resolveDeclaration).model = partners := by
    decide
  exact ⟨Model.isBuilt_of_toOption_eq hread, Model.resolve_of_passes (by cbv) hids hregistered htyped (by cbv) (by cbv)⟩

theorem exists_structs_partners : ∃ file, structFile (generate {} partners).calls = .ok file ∧
    file.structs.map (fun s => (s.name, s.held)) = [(⟨"A"⟩, [⟨"B"⟩]), (⟨"B"⟩, [⟨"A"⟩])] := by
  have hfile : (structFile (generate {} partners).calls).toOption.map
      (fun file => file.structs.map fun s => (s.name, s.held)) =
        some [(⟨"A"⟩, [⟨"B"⟩]), (⟨"B"⟩, [⟨"A"⟩])] := by
    decide +kernel
  obtain ⟨file, hfile, hstructs⟩ := Option.map_eq_some_iff.mp hfile
  exact ⟨file, eq_ok_of_toOption_eq_some hfile, hstructs⟩

theorem identifiersApart_partners : Run.IdentifiersApart (generate {} partners).report.emitted := by
  unfold Run.IdentifiersApart
  decide +kernel

/-- The structs of the two types hold each other. -/
theorem isFinite_iff_partners :
    ∃ file, structFile (generate {} partners).calls = .ok file ∧
      (∀ a b, file.Holds a b ↔ Run.ContainsOnce partners {} a b) ∧
        Run.IdentifiersApart (generate {} partners).report.emitted ∧ (∀ a, ¬ file.Holds a a) ∧
          (∀ a, ¬ Relation.TransGen (Run.Derives partners {}) a a) ∧
            (file.IsFinite ↔ ∀ a b, a ≠ b → Relation.TransGen (Run.ContainsOnce partners {}) a b →
              ¬ Relation.TransGen (Run.ContainsOnce partners {}) b a) := by
  obtain ⟨file, hfile, -⟩ := exists_structs_partners
  obtain ⟨hholds, hapart⟩ := Run.isFinite_iff hfile
  exact ⟨file, hfile, hholds, identifiersApart_partners, hapart identifiersApart_partners⟩

/-- A struct made from this schema has itself inside of it. -/
theorem not_isFinite_partners :
    writtenPartners.IsBuilt ∧ (resolve ∅ writtenPartners).model = partners ∧
      ∃ file, structFile (generate {} partners).calls = .ok file ∧ file.Holds ⟨"A"⟩ ⟨"B"⟩ ∧ file.Holds ⟨"B"⟩ ⟨"A"⟩ ∧
        ¬ file.IsFinite := by
  obtain ⟨hbuilt, hresolved⟩ := resolve_writtenPartners
  obtain ⟨file, hfile, hstructs⟩ := exists_structs_partners
  have hholds : ∀ a b, (a, [b]) ∈ file.structs.map (fun s => (s.name, s.held)) → file.Holds a b := by
    intro a b hmem
    obtain ⟨s, hs, heq⟩ := List.mem_map.mp hmem
    obtain ⟨rfl, hheld⟩ := Prod.mk.inj heq
    exact ⟨s, hs, rfl, by simp [hheld]⟩
  have hab : file.Holds ⟨"A"⟩ ⟨"B"⟩ := hholds _ _ (by simp [hstructs])
  have hba : file.Holds ⟨"B"⟩ ⟨"A"⟩ := hholds _ _ (by simp [hstructs])
  exact ⟨hbuilt, hresolved, file, hfile, hab, hba, fun hfinite => hfinite ⟨"A"⟩ (.tail (.single hab) hba)⟩

end SchemaBinding
