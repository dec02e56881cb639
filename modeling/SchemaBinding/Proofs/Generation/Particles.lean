import Mathlib.Data.List.Forall2
import SchemaBinding.Proofs.Generation.Agenda
import SchemaBinding.Proofs.Generation.Blocks
import SchemaBinding.Proofs.Generation.Fields
import SchemaBinding.Proofs.Generation.Accounts
import SchemaBinding.Proofs.Resolve.Content
import SchemaBinding.Proofs.Resolve.Particles

/-!
# `SchemaBinding.Proofs.Generation.Particles`: fields and the content that they are for

The fields of a generated type mirror its content (`Mirrors`) if each element has a field of its own, in the order of
the declaration, if the wildcards share a field, and if a field is repeated whenever something that it stands for is.

Two kinds of schemas have types whose fields do not mirror their content. A reference to a group that is left where it is
gets a field like an element, and the field of the wildcards is repeated if the first of them is, whatever is said of the
others. `ToldParticles` says which fields there are, and that there is nothing else that a mirror could lack.
-/

set_option autoImplicit false

namespace SchemaBinding

/-- The field is for the child: it goes by the name of the child, and is repeated if the child is. -/
def Field.Carries (f : Field) (child : Node) : Prop :=
  f.name = child.cleanName ∧ (child.isRepeated = true → f.repeated = true)

/-- The fields are those of the content. -/
structure Mirrors (fs : List Field) (children : List Node) : Prop where
  /-- The fields of elements are for the elements, one for each, in their order. -/
  elements : List.Forall₂ Field.Carries (fs.filter (·.kind = .element)) (children.filter (·.kind = .element))
  /-- There is a field of wildcards for wildcards and for nothing else. -/
  wildcard_iff : (∃ f ∈ fs, f.kind = .wildcard) ↔ ∃ child ∈ children, child.kind = .wildcard
  /-- It has room for all of them. -/
  repeated : ∀ f ∈ fs, f.kind = .wildcard → ∀ child ∈ children, child.kind = .wildcard → child.isRepeated = true →
    f.repeated = true

variable {m : Model} {style : AccessorStyle}

/-! ### The fields of children -/

theorem filter_element_childFields (wildcardSeen : Bool) (children : List Node) :
    (childFields m style wildcardSeen children).filter (·.kind = .element) =
      (children.filter (!·.isWildcard)).map (elementField m style) := by
  fun_induction childFields m style wildcardSeen children with
  | case1 => rfl
  | case2 child rest hwildcard ih => simp [hwildcard, ih]
  | case3 _ child rest hwildcard _ ih => simp [hwildcard, ih, wildcardField, plainField]
  | case4 _ child rest hwildcard ih => simp [hwildcard, ih, elementField, plainField]

theorem filter_wildcard_childFields (wildcardSeen : Bool) (children : List Node) :
    (childFields m style wildcardSeen children).filter (·.kind = .wildcard) =
      if wildcardSeen then [] else ((children.find? (·.isWildcard)).map (wildcardField style)).toList := by
  fun_induction childFields m style wildcardSeen children with
  | case1 => simp
  | case2 child rest hwildcard ih => simp [ih]
  | case3 _ child rest hwildcard hseen ih => simp [hwildcard, hseen, ih, wildcardField, plainField]
  | case4 _ child rest hwildcard ih => simp [hwildcard, ih, elementField, plainField]

/-- Attributes and content without a name have fields of other kinds. -/
theorem filter_kind_fields (n : Node) {kind : FieldKind} (hkind : kind = .element ∨ kind = .wildcard) :
    (fields m style n).filter (·.kind = kind) =
      (childFields m style false (n.children.map m.node)).filter (·.kind = kind) := by
  have hattributes : (n.attributes.values.map (attributeField style)).filter (·.kind = kind) = [] := by
    rw [List.filter_eq_nil_iff]
    intro f hf
    obtain ⟨d, -, rfl⟩ := List.mem_map.mp hf
    rcases hkind with rfl | rfl <;> simp [attributeField, plainField]
  have hcontent : (contentFields m style n).filter (·.kind = kind) = [] := by
    unfold contentFields
    rcases hkind with rfl | rfl <;> split <;> split <;> split <;> simp [plainField]
  unfold fields
  rw [List.filter_append, List.filter_append, hattributes, hcontent, List.append_nil, List.append_nil]

/-! ### What is told of the content -/

/-- What is told of the content of a declaration. The model `m` is the one before references were replaced. -/
structure ToldParticles (m : Model) (fs : List Field) (children : List Node) : Prop where
  particles : ∀ child ∈ children, IsParticle m child
  /-- All children but the wildcards have fields of their own. -/
  elements : List.Forall₂ (fun f child => f.name = child.cleanName ∧ f.repeated = child.isRepeated)
    (fs.filter (·.kind = .element)) (children.filter (!·.isWildcard))
  /-- There is one field for wildcards, if there are any, and it is made for the first of them. -/
  wildcards : (fs.filter (·.kind = .wildcard)).map (·.repeated) =
    ((children.find? (·.isWildcard)).map (·.isRepeated)).toList

/-- No wildcard is repeated without the first. -/
def FirstIsRepeated (children : List Node) : Prop :=
  ∀ first ∈ children.find? (·.isWildcard), ∀ child ∈ children, child.isWildcard = true → child.isRepeated = true →
    first.isRepeated = true

theorem Node.isWildcard_iff {n : Node} : n.isWildcard = true ↔ n.kind = .wildcard := by
  simp [isWildcard]

namespace ToldParticles

variable {fs : List Field} {children : List Node}

/-- What is repeated of the field for wildcards is what is repeated of the first of them. -/
theorem exists_wildcard_iff (h : ToldParticles m fs children) (repeated : Bool) :
    (∃ f ∈ fs, f.kind = .wildcard ∧ f.repeated = repeated) ↔
      ∃ first ∈ children.find? (·.isWildcard), first.isRepeated = repeated := by
  have hmem : repeated ∈ (fs.filter (·.kind = .wildcard)).map (·.repeated) ↔
      repeated ∈ ((children.find? (·.isWildcard)).map (·.isRepeated)).toList := by rw [h.wildcards]
  simpa [and_assoc] using hmem

/-- Fields that mirror the content leave no room for references: there are as many fields as children. -/
theorem not_groupRef (h : ToldParticles m fs children) (hmirrors : Mirrors fs children) :
    ∀ child ∈ children, child.kind ≠ .groupRef := by
  have hsublist : (children.filter (·.kind = .element)).Sublist (children.filter (!·.isWildcard)) := by
    refine List.monotone_filter_right children fun child hkind => ?_
    simp_all [Node.isWildcard]
  have hsame := hsublist.eq_of_length (hmirrors.elements.length_eq.symm.trans h.elements.length_eq)
  intro child hchild hkind
  have hmem : child ∈ children.filter (·.kind = .element) := by
    rw [hsame]
    exact List.mem_filter.mpr ⟨hchild, by simp [Node.isWildcard, hkind]⟩
  simp [hkind] at hmem

theorem wildcard_iff (h : ToldParticles m fs children) :
    (∃ f ∈ fs, f.kind = .wildcard) ↔ ∃ child ∈ children, child.kind = .wildcard := by
  have hfirst : (∃ first, first ∈ children.find? (·.isWildcard)) ↔ ∃ child ∈ children, child.kind = .wildcard := by
    simp only [Option.mem_def, ← Option.isSome_iff_exists, List.find?_isSome, Node.isWildcard_iff]
  rw [← hfirst]
  constructor
  · rintro ⟨f, hf, hkind⟩
    obtain ⟨first, hfirst, -⟩ := (h.exists_wildcard_iff f.repeated).mp ⟨f, hf, hkind, rfl⟩
    exact ⟨first, hfirst⟩
  · rintro ⟨first, hfirst⟩
    obtain ⟨f, hf, hkind, -⟩ := (h.exists_wildcard_iff first.isRepeated).mpr ⟨first, hfirst, rfl⟩
    exact ⟨f, hf, hkind⟩

/-- The fields mirror the content if and only if no reference is left in it, and no wildcard is repeated without the
first. -/
theorem mirrors_iff (h : ToldParticles m fs children) :
    Mirrors fs children ↔ (∀ child ∈ children, child.kind ≠ .groupRef) ∧ FirstIsRepeated children := by
  constructor
  · intro hmirrors
    refine ⟨h.not_groupRef hmirrors, fun first hfirst child hchild hwildcard hrepeated => ?_⟩
    obtain ⟨f, hf, hkind, hsame⟩ := (h.exists_wildcard_iff first.isRepeated).mpr ⟨first, hfirst, rfl⟩
    rw [← hsame]
    exact hmirrors.repeated f hf hkind child hchild (Node.isWildcard_iff.mp hwildcard) hrepeated
  · rintro ⟨hnone, hfirst⟩
    -- Without references, the children besides the wildcards are the elements.
    have hsame : children.filter (!·.isWildcard) = children.filter (·.kind = .element) := by
      refine List.filter_congr fun child hchild => ?_
      rcases h.particles child hchild with hkind | hkind | ⟨hkind, -⟩
      · simp [Node.isWildcard, hkind]
      · simp [Node.isWildcard, hkind]
      · exact absurd hkind (hnone child hchild)
    refine ⟨?_, h.wildcard_iff, ?_⟩
    · rw [← hsame]
      exact h.elements.imp fun f child heq => ⟨heq.1, fun hrepeated => heq.2.trans hrepeated⟩
    · intro f hf hkind child hchild hwildcard hrepeated
      obtain ⟨first, hmem, hrepeats⟩ := (h.exists_wildcard_iff f.repeated).mp ⟨f, hf, hkind, rfl⟩
      rw [← hrepeats]
      exact hfirst first hmem child hchild (Node.isWildcard_iff.mpr hwildcard) hrepeated

end ToldParticles

/-- Of the content of a declaration, the calls tell all fields but those that replace a reference. -/
theorem toldParticles_typeCalls {r : Model} {n : Node} (config : Config) (base : Option Node)
    (hparticles : ∀ child ∈ n.children, IsParticle m (r.node child)) :
    ToldParticles m ((typeCalls r config n base).filterMap Call.field?) (n.children.map r.node) where
  particles := by simpa using hparticles
  elements := by
    rw [filterMap_typeCalls, filter_kind_fields n (Or.inl rfl), filter_element_childFields, List.forall₂_map_left_iff,
      List.forall₂_same]
    exact fun child _ => ⟨rfl, rfl⟩
  wildcards := by
    rw [filterMap_typeCalls, filter_kind_fields n (Or.inr rfl), filter_wildcard_childFields, if_neg (by simp)]
    cases (n.children.map r.node).find? (·.isWildcard) <;> rfl

/-- **What the fields of a generated type are for.** The calls for a declaration tell of one field for each child besides
the wildcards, and of one for the first wildcard. They mirror the content of the declaration if and only if no reference
to a group is left in it, which has a reason if there is one, and no wildcard is repeated without the first. -/
theorem Model.IsBuilt.toldParticles (h : m.IsBuilt) (names : NameTable) (config : Config) {id : NodeId}
    (hid : Run.Begins (resolve names m).model config id) :
    let r := (resolve names m).model
    let fs := (Run.typeBlock r config id).filterMap Call.field?
    let children := (r.children id).map r.node
    ToldParticles m fs children ∧
      (Mirrors fs children ↔ (∀ child ∈ children, child.kind ≠ .groupRef) ∧ FirstIsRepeated children) := by
  obtain ⟨hfound, hreaches⟩ := hid.found
  have hroot : id ≠ Model.root :=
    ((h.isResolved names).written_of_isExplicitlyDefined (Node.isEmittable_iff.mp hfound.isEmittable).1).2.1
  have htold := toldParticles_typeCalls config ((parent? (resolve names m).model id).map (resolve names m).model.node)
    fun child hchild => h.isParticle_resolve names hreaches hroot hchild
  exact ⟨htold, htold.mirrors_iff⟩

/-! ### A type with wildcards and a reference -/

/-- A type with an element, two wildcards of which the second is repeated, and a reference to a group that is not
declared. -/
def writtenParcel : Model where
  nodes := #[taggedNode .schema "schema" false [⟨1⟩], taggedNode .complexType "Parcel" true [⟨2⟩, ⟨3⟩, ⟨4⟩, ⟨5⟩],
    stringElement "item" false, Node.ofKind .wildcard "", { Node.ofKind .wildcard "" with maxOccurs := .unbounded },
    taggedNode .groupRef "Extras" false []]
  builtins := ⟨""⟩

/-- The same schema when it is resolved. -/
def parcel : Model where
  nodes := #[taggedNode .schema "schema" false [⟨1⟩],
    { taggedNode .complexType "Parcel" true [⟨2⟩, ⟨3⟩, ⟨4⟩, ⟨5⟩] with
      resolvedType := some (.named "Parcel"), isComplex := true },
    typedElement "item" false, { Node.ofKind .wildcard "" with resolvedType := some .any },
    { Node.ofKind .wildcard "" with maxOccurs := .unbounded, resolvedType := some .any },
    taggedNode .groupRef "Extras" false []]
  symbols := { elements := .ofList [("Parcel", ⟨1⟩)] }
  builtins := ⟨""⟩

set_option maxRecDepth 20000 in
/-- What the schema is when it is resolved. Its type is generated. -/
theorem resolve_begins_parcel :
    (writtenParcel.IsBuilt ∧ (resolve ∅ writtenParcel).model = parcel) ∧ Run.Begins parcel {} ⟨1⟩ := by
  constructor
  · let content := enclosed "element" [("name", "item"), ("type", "string")] [] ++ enclosed "any" [] [] ++
      enclosed "any" [("maxOccurs", "unbounded")] [] ++ enclosed "group" [("ref", "Extras")] []
    have hread : (Model.ofEvents none (enclosed "schema" [] (enclosed "complexType" [("name", "Parcel")] content))).toOption =
        some writtenParcel := by decide
    let registered : Model := { writtenParcel with symbols := parcel.symbols }
    have hids : writtenParcel.declarations = [⟨1⟩, ⟨2⟩, ⟨3⟩, ⟨4⟩] := by cbv
    have hregistered : (Resolved.forEach writtenParcel [⟨1⟩, ⟨2⟩, ⟨3⟩, ⟨4⟩] (registerNode ∅)).model = registered := by
      decide
    have htyped : (Resolved.forEach registered [⟨1⟩, ⟨2⟩, ⟨3⟩, ⟨4⟩] resolveDeclaration).model = parcel := by
      decide
    exact ⟨Model.isBuilt_of_toOption_eq hread, Model.resolve_of_passes (by cbv) hids hregistered htyped (by cbv) (by cbv)⟩
  · have hemitted : (Run.atRest parcel {}).report.emitted = ["Parcel"] := by decide +kernel
    refine ((Run.reached_atRest parcel {}).begins_of_cleanName_mem (by decide) (by decide) ?_).1
    rw [hemitted]
    decide

/-- What the fields of the type are for. -/
theorem toldParticles_parcel :
    writtenParcel.IsBuilt ∧ (resolve ∅ writtenParcel).model = parcel ∧ Run.Begins parcel {} ⟨1⟩ ∧
      let fs := (Run.typeBlock parcel {} ⟨1⟩).filterMap Call.field?
      let children := (parcel.children ⟨1⟩).map parcel.node
      ToldParticles writtenParcel fs children ∧
        (Mirrors fs children ↔ (∀ child ∈ children, child.kind ≠ .groupRef) ∧ FirstIsRepeated children) := by
  obtain ⟨⟨hbuilt, hresolved⟩, hbegins⟩ := resolve_begins_parcel
  have hid : Run.Begins (resolve ∅ writtenParcel).model {} ⟨1⟩ := hresolved ▸ hbegins
  have htold := hbuilt.toldParticles ∅ {} hid
  rw [hresolved] at htold
  exact ⟨hbuilt, hresolved, hbegins, htold⟩

/-- The type has a field like that of an element for the reference, and a field for wildcards that is not repeated. -/
theorem not_mirrors_parcel :
    writtenParcel.IsBuilt ∧ (resolve ∅ writtenParcel).model = parcel ∧ Run.Begins parcel {} ⟨1⟩ ∧
      let fs := (Run.typeBlock parcel {} ⟨1⟩).filterMap Call.field?
      let children := (parcel.children ⟨1⟩).map parcel.node
      fs.map (fun f => (f.name, f.kind, f.repeated)) =
          [("item", .element, false), ("anytypeobjs_", .wildcard, false), ("Extras", .element, false)] ∧
        children.map (fun child => (child.name, child.kind, child.isRepeated)) =
          [("item", .element, false), ("", .wildcard, false), ("", .wildcard, true), ("Extras", .groupRef, false)] ∧
        ¬ Mirrors fs children := by
  obtain ⟨⟨hbuilt, hresolved⟩, hbegins⟩ := resolve_begins_parcel
  refine ⟨hbuilt, hresolved, hbegins, rfl, rfl, ?_⟩
  intro hmirrors
  have hlength := hmirrors.elements.length_eq
  revert hlength
  decide

end SchemaBinding
