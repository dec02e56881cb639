import SchemaBinding.Proofs.Code.Structs
import SchemaBinding.Proofs.Generation.Agenda
import SchemaBinding.Proofs.Generation.Blocks
import SchemaBinding.Proofs.Resolve.AttributeNames
import SchemaBinding.Proofs.Resolve.Content

/-!
# `SchemaBinding.Proofs.Code.WireNames`: what generated structs call the parts of a document

A struct reads and writes documents, so its fields should be called there what the schema calls them. They are called by
clean names instead, which are made for code. The fields of a generated type come from its children and its attributes,
and both pass on their clean names (`renames_typeCalls`). So a struct has the names of the schema if and only if neither
the cleaning of names nor the renaming of attributes that are called like a child has changed any of them
(`Struct.NamedAfter`, `Model.IsResolved.exists_structs_namedAfter`).
-/

set_option autoImplicit false

namespace SchemaBinding

/-- The names in documents of the elements, the attributes and the text of a node, given what each is called. -/
def Node.wireNames (m : Model) (n : Node) (ofChild : Node → String) (ofAttribute : AttributeDef → String) :
    List String :=
  ((n.children.map m.node).filter (!·.isWildcard)).map ofChild ++
    n.attributes.values.map (fun d => "@" ++ ofAttribute d) ++
    if n.hasSimpleContent || n.mixed then ["$text"] else []

/-- The names are the same if and only if each part is called the same. -/
theorem Node.wireNames_eq_iff {m : Model} {n : Node} {ofChild ofChild' : Node → String}
    {ofAttribute ofAttribute' : AttributeDef → String} :
    n.wireNames m ofChild ofAttribute = n.wireNames m ofChild' ofAttribute' ↔
      (∀ child ∈ n.children, (m.node child).isWildcard = false → ofChild (m.node child) = ofChild' (m.node child)) ∧
        ∀ d ∈ n.attributes.values, ofAttribute d = ofAttribute' d := by
  have hsign : ∀ name name' : String, "@" ++ name = "@" ++ name' ↔ name = name' := by
    intro name name'
    simp [String.ext_iff]
  have hparts : n.wireNames m ofChild ofAttribute = n.wireNames m ofChild' ofAttribute' ↔
      ((n.children.map m.node).filter (!·.isWildcard)).map ofChild =
          ((n.children.map m.node).filter (!·.isWildcard)).map ofChild' ∧
        n.attributes.values.map (fun d => "@" ++ ofAttribute d) =
          n.attributes.values.map (fun d => "@" ++ ofAttribute' d) := by
    unfold Node.wireNames
    rw [List.append_left_inj]
    constructor
    · intro h
      exact List.append_inj h (by simp)
    · rintro ⟨hchildren, hattributes⟩
      rw [hchildren, hattributes]
  rw [hparts, List.map_inj_left, List.map_inj_left]
  simp [hsign]

/-! ### The calls for a type -/

section calls

variable {m : Model} {style : AccessorStyle}

/-- What else marks a field gives it no name. -/
theorem renames_eq (f : Field) : f.renames =
    match f.kind with
      | .element => [f.name]
      | .attribute => ["@" ++ f.name]
      | .value => ["$text"]
      | .anyAttributes | .wildcard | .extensionType => [] := by
  have hdefault : (if f.optional || f.repeated then [FieldMark.default] else []).filterMap FieldMark.rename? = [] := by
    split <;> rfl
  unfold Field.renames Structs.fieldMarks
  rw [List.filterMap_cons, hdefault]
  cases f.kind <;> rfl

theorem renames_fieldCalls (validated : List String) (fs : List Field) :
    (fieldCalls m validated fs).flatMap Call.renames = fs.flatMap Field.renames := by
  induction fs generalizing validated with
  | nil => rfl
  | cons f rest ih =>
      unfold fieldCalls
      split
      · split <;> simp [ih, Call.renames]
      · simp [ih, Call.renames]

theorem renames_childFields (wildcardSeen : Bool) (children : List Node) :
    (childFields m style wildcardSeen children).flatMap Field.renames =
      (children.filter (!·.isWildcard)).map (·.cleanName) := by
  fun_induction childFields m style wildcardSeen children with
  | case1 => rfl
  | case2 child rest hwildcard ih => simp [ih, hwildcard]
  | case3 _ child rest hwildcard _ ih => simp [ih, hwildcard, renames_eq, wildcardField, plainField]
  | case4 _ child rest hwildcard ih => simp [ih, hwildcard, renames_eq, elementField, plainField]

theorem renames_attributeFields (attributes : List AttributeDef) :
    (attributes.map (attributeField style)).flatMap Field.renames = attributes.map ("@" ++ ·.cleanName) := by
  induction attributes with
  | nil => rfl
  | cons d rest ih => simp [ih, renames_eq, attributeField, plainField]

theorem renames_contentFields (n : Node) :
    (contentFields m style n).flatMap Field.renames = if n.hasSimpleContent || n.mixed then ["$text"] else [] := by
  unfold contentFields
  cases n.anyAttribute <;> cases n.isExtended <;> split <;> simp [renames_eq, plainField]

/-- The calls for a type say the clean names of what it consists of. -/
theorem renames_typeCalls (config : Config) (n : Node) (base : Option Node) :
    (typeCalls m config n base).flatMap Call.renames = n.wireNames m (·.cleanName) (·.cleanName) := by
  have hmethods : ∀ specs : List MethodSpec,
      (specs.map fun spec => Call.userMethods (spec.render n.cleanName)).flatMap Call.renames = [] := by
    intro specs
    simp [Call.renames, List.flatMap_map]
  have hdocumentation : ((nonBlank? n.documentation).map Call.documentation).toList.flatMap Call.renames = [] := by
    cases nonBlank? n.documentation <;> rfl
  unfold typeCalls
  simp only [List.flatMap_append, hmethods, hdocumentation, renames_fieldCalls]
  simp [fields, Call.renames, renames_childFields, renames_attributeFields, renames_contentFields, Node.wireNames]

end calls

/-! ### The structs of a file -/

/-- The struct of a declaration, which is read and written by clean names. -/
structure Struct.NamedAfter (names : NameTable) (m : Model) (id : NodeId) (s : Struct) : Prop where
  /-- The names are shown. -/
  isMarked : s.isMarked = true
  renames : s.renames = (m.node id).wireNames m (·.cleanName) (·.cleanName)
  /-- When these are the names that the schema declares. -/
  renames_eq_iff : s.renames = (m.node id).wireNames m (·.name) (·.name) ↔
    (∀ child ∈ m.children id, (m.node child).isWildcard = false → (m.node child).cleanName = (m.node child).name) ∧
      ∀ d ∈ (m.node id).attributes.values, d.cleanName = d.name
  /-- An element has no other clean name than that of its name. -/
  ofElement : ∀ child ∈ m.children id, (m.node child).kind = .element →
    (m.node child).cleanName = names.clean (m.node child).name
  /-- An attribute has none either, unless some attribute is called like a child. -/
  ofAttribute : AttributesApart names m id → ∀ d ∈ (m.node id).attributes.values, d.cleanName = names.clean d.name

namespace Model.IsResolved

variable {names : NameTable} {config : Config} {r : Model}

/-- The struct made of the block of a declaration is named after it. -/
theorem namedAfter (hr : r.IsResolved names) {id : NodeId} (hid : Run.Begins r config id) {s : Struct}
    (hrenames : s.renames = (Run.typeBlock r config id).flatMap Call.renames) (hmarked : s.isMarked = true) :
    s.NamedAfter names r id := by
  obtain ⟨hfound, hreaches⟩ := hid.found
  have hclean : s.renames = (r.node id).wireNames r (·.cleanName) (·.cleanName) := by
    rw [hrenames]
    exact renames_typeCalls config (r.node id) _
  refine ⟨hmarked, hclean, ?_, ?ofElement, ?ofAttribute⟩
  · rw [hclean]
    exact Node.wireNames_eq_iff
  case ofElement =>
    intro child hchild hkind
    have hheld : r.Holds child := by
      refine Decidable.byContradiction fun hnone => ?_
      rw [node_of_not_holds hnone] at hkind
      cases hkind
    refine hr.cleanName_eq (mem_declarations_iff.mpr ⟨hreaches.tail hchild, hheld, ?_⟩)
    rw [hkind]
    decide
  case ofAttribute =>
    exact hr.cleanName_of_attribute (hr.mem_declarations_of_isEmittable hreaches hfound.isEmittable)

/-- A file has one struct for each declaration that is generated, in the same order, and each struct is named after its
declaration. -/
theorem exists_structs_namedAfter (hr : r.IsResolved names) {file : StructFile}
    (hfile : structFile (generate config r).calls = .ok file) :
    ∃ begun : List NodeId, (generate config r).report.emitted = begun.map (fun id => (r.node id).cleanName) ∧
      (∀ id ∈ begun, Run.Begins r config id) ∧
        List.Forall₂ (fun id s => s.NamedAfter names r id) begun file.structs := by
  obtain ⟨begun, hbegun⟩ := (Run.reached_atRest r config).exists_recorded
  have hcalls : (generate config r).calls = begun.flatMap (Run.typeBlock r config) := hbegun.calls
  rw [hcalls] at hfile
  have hstructs := exists_structs_of_blocks (fun id _ => ⟨_, _, isBlock_typeCalls r config _ _⟩) hfile
  refine ⟨begun, hbegun.emitted, hbegun.begins, ?_⟩
  refine ((List.forall₂_and_left _ _).mpr ⟨hbegun.begins, hstructs⟩).imp ?_
  rintro id s ⟨hid, hrenames, hmarked⟩
  exact hr.namedAfter hid hrenames (hmarked (by simp [typeCalls]))

end Model.IsResolved

/-! ### Names with characters that are replaced -/

/-- A type with an element and an attribute whose names are no identifiers. -/
def writtenContact : Model where
  nodes := #[taggedNode .schema "schema" false [⟨1⟩],
    { taggedNode .complexType "Contact" true [⟨2⟩] with attributes := ⟨[("vat.id", .declared "vat.id" "string")]⟩ },
    stringElement "e-mail" false]
  builtins := ⟨""⟩

/-- The same schema when it is resolved. -/
def contact : Model where
  nodes := #[taggedNode .schema "schema" false [⟨1⟩],
    { taggedNode .complexType "Contact" true [⟨2⟩] with
      attributes := ⟨[("vat.id", { AttributeDef.declared "vat.id" "string" with
        cleanName := "vat_id"
        resolvedType := some .string })]⟩
      resolvedType := some (.named "Contact")
      isComplex := true },
    { typedElement "e-mail" false with cleanName := "e_mail" }]
  symbols := { elements := .ofList [("Contact", ⟨1⟩)] }
  builtins := ⟨""⟩

set_option maxRecDepth 20000 in
theorem resolve_writtenContact : writtenContact.IsBuilt ∧ (resolve ∅ writtenContact).model = contact := by
  let type := enclosed "complexType" [("name", "Contact")]
    (enclosed "element" [("name", "e-mail"), ("type", "string")] [] ++ enclosed "attribute" [("name", "vat.id")] [])
  have hread : (Model.ofEvents none (enclosed "schema" [] type)).toOption = some writtenContact := by decide
  let registered : Model := { contact with
    nodes := #[taggedNode .schema "schema" false [⟨1⟩],
      { taggedNode .complexType "Contact" true [⟨2⟩] with
        attributes := ⟨[("vat.id", { AttributeDef.declared "vat.id" "string" with cleanName := "vat_id" })]⟩ },
      { stringElement "e-mail" false with cleanName := "e_mail" }] }
  have hids : writtenContact.declarations = [⟨1⟩, ⟨2⟩] := by cbv
  have hregistered : (Resolved.forEach writtenContact [⟨1⟩, ⟨2⟩] (registerNode ∅)).model = registered := by
    decide
  have htyped : (Resolved.forEach registered [⟨1⟩, ⟨2⟩] resolveDeclaration).model = contact := by decide
  exact ⟨Model.isBuilt_of_toOption_eq hread, Model.resolve_of_passes (by cbv) hids hregistered htyped (by cbv) (by cbv)⟩

set_option maxRecDepth 20000 in
theorem exists_structs_contact : ∃ file, structFile (generate {} contact).calls = .ok file ∧
    file.structs.map Struct.renames = [["e_mail", "@vat_id"]] := by
  have hfile : (structFile (generate {} contact).calls).toOption.map (fun file => file.structs.map Struct.renames) =
      some [["e_mail", "@vat_id"]] := by
    decide +kernel
  obtain ⟨file, hfile, hstructs⟩ := Option.map_eq_some_iff.mp hfile
  exact ⟨file, eq_ok_of_toOption_eq_some hfile, hstructs⟩

/-- The element and the attribute have the clean names of their names. -/
theorem namedAfter_contact :
    contact.IsResolved ∅ ∧ ∃ file, structFile (generate {} contact).calls = .ok file ∧
      ∃ begun : List NodeId, (generate {} contact).report.emitted = begun.map (fun id => (contact.node id).cleanName) ∧
        (∀ id ∈ begun, Run.Begins contact {} id) ∧
          List.Forall₂ (fun id s => s.NamedAfter ∅ contact id) begun file.structs := by
  obtain ⟨hbuilt, hresolved⟩ := resolve_writtenContact
  have hr : contact.IsResolved ∅ := ⟨writtenContact, hbuilt, hresolved⟩
  obtain ⟨file, hfile, -⟩ := exists_structs_contact
  exact ⟨hr, file, hfile, hr.exists_structs_namedAfter hfile⟩

set_option maxRecDepth 20000 in
/-- The struct of the type reads and writes names that the schema does not have. -/
theorem renames_contact :
    writtenContact.IsBuilt ∧ (resolve ∅ writtenContact).model = contact ∧
      (generate {} contact).report.emitted = ["Contact"] ∧
      (∃ file, structFile (generate {} contact).calls = .ok file ∧
        file.structs.map Struct.renames = [["e_mail", "@vat_id"]]) ∧
      (contact.node ⟨1⟩).wireNames contact (·.name) (·.name) = ["e-mail", "@vat.id"] := by
  obtain ⟨hbuilt, hresolved⟩ := resolve_writtenContact
  exact ⟨hbuilt, hresolved, by decide +kernel, exists_structs_contact, by decide⟩

end SchemaBinding
