import SchemaBinding.Proofs.Generation.Accounts
import SchemaBinding.Proofs.Generation.Blocks
import SchemaBinding.Proofs.Generation.Fields
import SchemaBinding.Proofs.Resolve.Placed
import SchemaBinding.Proofs.Resolve.Typed

/-!
# `SchemaBinding.Proofs.Generation.References`: the types that fields refer to

A field of a complex type goes by the clean name of a declaration that is its own type, and generated code is only whole
if the run deals with some declaration of that clean name. Then the report names it. `complexField_named_or_dangling`
says that it does, unless the field is left `Dangling`. There are three ways for that: the declaration has nothing but a
type name, there is a simple type inside of it, or it stands inside of declarations that are not generated.

The first way is open to every element that shares its name with a type that nobody declares. Its type name is not
reported as undeclared, and neither is that of an element that refers to it (`complexField_dangling_address`).
-/

set_option autoImplicit false

namespace SchemaBinding.Run

variable {r : Model} {names : NameTable} {config : Config}

/-- Why a run does not deal with a declaration that is its own type. -/
inductive Dangling (r : Model) (config : Config) (id : NodeId) : Prop where
  /-- The declaration has no content of its own, only a type name, or a reference as one, that leads back to it. -/
  | contentless (hcontent : (r.node id).isExplicitlyDefined = false)
  /-- There is content, but a simple type inside of the declaration decides what it is. -/
  | simple (hcontent : (r.node id).isExplicitlyDefined = true) (hsimple : (r.node id).isComplex = false)
      (hinline : (r.node id).inlineSimpleType? r ≠ none)
  /-- None of the declarations that it stands in is generated. -/
  | unreached (he : (r.node id).isEmittable = true) (hinner : (r.node id).isTopLevel = false)
      (howner : ∀ owner, Begins r config owner → id ∉ r.children owner)

/-- The report names what is generated at the top level under a name. -/
theorem names_of_mem_topLevel (hr : r.IsResolved names) {id x : NodeId} (hid : id ∈ r.declarations)
    (hx : x ∈ r.topLevel) (he : (r.node x).isEmittable = true) (hname : (r.node x).name = (r.node id).name) :
    (generate config r).report.Names (r.node id).cleanName := by
  -- A later declaration of the name may take the place of `x`, but it has the same clean name.
  obtain ⟨last, hlast⟩ := exists_get?_typesByName hx he
  obtain ⟨hlaste, hlastname⟩ := get?_typesByName_eq_some hlast
  rw [← hlastname] at hlast
  have hfound : LastOfName r last := get?_typesByName_iff.mp hlast
  have hdeclared : last ∈ r.declarations :=
    hr.mem_declarations_of_isEmittable (.single hfound.mem_topLevel) hlaste
  refine names_iff.mpr ⟨last, .topLevel hfound, ?_⟩
  rw [hr.cleanName_eq hdeclared, hr.cleanName_eq hid, hlastname, hname]

/-- The report names a declaration that is its own type, unless the declaration is left out of the run. -/
theorem names_or_dangling (hr : r.IsResolved names) {name : String} {id : NodeId} (hown : OwnType r name id) :
    (generate config r).report.Names (r.node id).cleanName ∨ Dangling r config id := by
  obtain ⟨hid, -⟩ := hr.declared_of_element? hown.registered
  cases hcontent : (r.node id).isExplicitlyDefined with
  | false => exact Or.inr (.contentless hcontent)
  | true =>
      cases hcomplex : (r.node id).isComplex with
      | false =>
          have hwildcard : (r.node id).isWildcard = false := by
            rcases (hr.written_of_isExplicitlyDefined hcontent).2.2.1 with hkind | hkind <;>
              simp [Node.isWildcard, hkind]
          rcases hr.complexOrInline hown hwildcard with htrue | hinline
          · cases hcomplex.symm.trans htrue
          · exact Or.inr (.simple hcontent hcomplex hinline)
      | true =>
          have he : (r.node id).isEmittable = true := Node.isEmittable_iff.mpr ⟨hcontent, hcomplex⟩
          cases htop : (r.node id).isTopLevel with
          | true => exact Or.inl (names_of_mem_topLevel hr hid (hr.mem_topLevel hid he htop) he rfl)
          | false =>
              by_cases howner : ∃ owner, Begins r config owner ∧ id ∈ r.children owner
              · obtain ⟨owner, hbegins, hchild⟩ := howner
                exact Or.inl (names_iff.mpr ⟨id, .inner hbegins hchild he htop, rfl⟩)
              · exact Or.inr (.unreached he htop fun owner hbegins hchild => howner ⟨owner, hbegins, hchild⟩)

/-- A field of a complex type goes by the clean name of a declaration that is its own type. The report names it, or the
declaration is left out of the run and no other one of its name is generated at the top level. -/
theorem complexField_named_or_dangling (hr : r.IsResolved names) {f : Field} {cleanName : String}
    (hf : .field f ∈ (generate config r).calls) (htype : f.type = .complex cleanName) :
    ∃ id, OwnType r (r.node id).name id ∧ (r.node id).cleanName = cleanName ∧
      ((generate config r).report.Names cleanName ∨
        Dangling r config id ∧
          ∀ x ∈ r.topLevel, (r.node x).isEmittable = true → (r.node x).name ≠ (r.node id).name) := by
  obtain ⟨owner, -, hblock⟩ := exists_begins_of_mem_calls hf
  obtain ⟨child, -, name, hchild, rfl⟩ := exists_child_of_complex (field_mem_typeCalls.mp hblock) htype
  obtain ⟨id, hown⟩ := hr.exists_ownType hchild
  obtain ⟨hid, hname⟩ := hr.declared_of_element? hown.registered
  have hclean : registeredCleanName r name = (r.node id).cleanName := by
    rw [registeredCleanName, hown.registered]
    rfl
  refine ⟨id, hname.symm ▸ hown, hclean.symm, ?_⟩
  rw [hclean]
  by_cases hnamed : (generate config r).report.Names (r.node id).cleanName
  · exact Or.inl hnamed
  · refine Or.inr ⟨(names_or_dangling hr hown).resolve_left hnamed, fun x hx he hsame => hnamed ?_⟩
    exact names_of_mem_topLevel hr hid hx he hsame

/-- The type `Rush` extends the type `Order`, and has an element of that type. -/
def writtenOrders : Model where
  nodes := #[taggedNode .schema "schema" false [⟨1⟩, ⟨2⟩],
    { taggedNode .complexType "Order" true [] with attributes := ⟨[("id", .declared "id" "string")]⟩ },
    { taggedNode .complexType "Rush" true [⟨3⟩] with base := some "Order" },
    { taggedNode .element "first" false [] with rawType := "Order", isExplicitlyDefined := false }]
  builtins := ⟨""⟩

/-- The same schema when its nodes have types. -/
def typedOrders : Model where
  nodes := #[taggedNode .schema "schema" false [⟨1⟩, ⟨2⟩],
    { taggedNode .complexType "Order" true [] with
      attributes := ⟨[("id", { AttributeDef.declared "id" "string" with resolvedType := some .string })]⟩
      resolvedType := some (.named "Order")
      isComplex := true },
    { taggedNode .complexType "Rush" true [⟨3⟩] with
      base := some "Order"
      resolvedType := some (.named "Rush")
      isComplex := true },
    { taggedNode .element "first" false [] with
      rawType := "Order"
      isExplicitlyDefined := false
      resolvedType := some (.named "Order")
      isComplex := true }]
  symbols := { elements := .ofList [("Order", ⟨1⟩), ("Rush", ⟨2⟩)] }
  builtins := ⟨""⟩

/-- The same schema when it is resolved. -/
def orders : Model := typedOrders.modifyNode ⟨1⟩ fun n => { n with isExtended := true }

set_option maxRecDepth 20000 in
theorem isResolved_orders : orders.IsResolved ∅ := by
  let order := enclosed "complexType" [("name", "Order")] (enclosed "attribute" [("name", "id")] [])
  let rush := enclosed "complexType" [("name", "Rush")] (enclosed "complexContent" []
    (enclosed "extension" [("base", "Order")] (enclosed "element" [("name", "first"), ("type", "Order")] [])))
  have hread : (Model.ofEvents none (enclosed "schema" [] (order ++ rush))).toOption = some writtenOrders := by
    decide
  let registered : Model := { writtenOrders with symbols := typedOrders.symbols }
  have hids : writtenOrders.declarations = [⟨1⟩, ⟨2⟩, ⟨3⟩] := by cbv
  have hregistered : (Resolved.forEach writtenOrders [⟨1⟩, ⟨2⟩, ⟨3⟩] (registerNode ∅)).model = registered := by
    decide
  have htyped : (Resolved.forEach registered [⟨1⟩, ⟨2⟩, ⟨3⟩] resolveDeclaration).model = typedOrders := by
    decide
  exact (Model.isBuilt_of_toOption_eq hread).isResolved_of_passes (by cbv) hids hregistered htyped (by cbv) (by cbv)

set_option maxRecDepth 20000 in
/-- The element of `Rush` is a field of the type `Order`, which the report names. -/
theorem complexField_named_orders :
    orders.IsResolved ∅ ∧
      .field (elementField orders ({} : Config).accessorStyle (orders.node ⟨3⟩)) ∈ (generate {} orders).calls ∧
      (elementField orders ({} : Config).accessorStyle (orders.node ⟨3⟩)).type = .complex "Order" ∧
      ∃ id, OwnType orders (orders.node id).name id ∧ (orders.node id).cleanName = "Order" ∧
        ((generate {} orders).report.Names "Order" ∨
          Dangling orders {} id ∧
            ∀ x ∈ orders.topLevel, (orders.node x).isEmittable = true → (orders.node x).name ≠ (orders.node id).name) := by
  have hfield : .field (elementField orders ({} : Config).accessorStyle (orders.node ⟨3⟩)) ∈ (generate {} orders).calls := by
    decide +kernel
  have htype : (elementField orders ({} : Config).accessorStyle (orders.node ⟨3⟩)).type = .complex "Order" := by decide
  exact ⟨isResolved_orders, hfield, htype, complexField_named_or_dangling isResolved_orders hfield htype⟩

/-- The type `Person` refers to the element `Address`, which has a type of the same name that is not declared. -/
def writtenAddress : Model where
  nodes := #[taggedNode .schema "schema" false [⟨1⟩, ⟨2⟩],
    { taggedNode .element "Address" true [] with rawType := "Address", isExplicitlyDefined := false },
    taggedNode .complexType "Person" true [⟨3⟩],
    { taggedNode .element "Address" false [] with
      rawType := "Address"
      reference := some "Address"
      isExplicitlyDefined := false }]
  builtins := ⟨""⟩

/-- The same schema when it is resolved. Both elements have the type of the first one. -/
def address : Model where
  nodes := #[taggedNode .schema "schema" false [⟨1⟩, ⟨2⟩],
    { taggedNode .element "Address" true [] with
      rawType := "Address"
      isExplicitlyDefined := false
      resolvedType := some (.named "Address")
      isComplex := true },
    { taggedNode .complexType "Person" true [⟨3⟩] with
      resolvedType := some (.named "Person")
      isComplex := true },
    { taggedNode .element "Address" false [] with
      rawType := "Address"
      reference := some "Address"
      isExplicitlyDefined := false
      resolvedType := some (.named "Address")
      isComplex := true }]
  symbols := { elements := .ofList [("Address", ⟨1⟩), ("Person", ⟨2⟩)] }
  builtins := ⟨""⟩

set_option maxRecDepth 20000 in
theorem isResolved_address : address.IsResolved ∅ := by
  let element := enclosed "element" [("name", "Address"), ("type", "Address")] []
  let person := enclosed "complexType" [("name", "Person")] (enclosed "element" [("ref", "Address")] [])
  have hread : (Model.ofEvents none (enclosed "schema" [] (element ++ person))).toOption = some writtenAddress := by
    decide
  let registered : Model := { writtenAddress with symbols := address.symbols }
  have hids : writtenAddress.declarations = [⟨1⟩, ⟨2⟩, ⟨3⟩] := by cbv
  have hregistered : (Resolved.forEach writtenAddress [⟨1⟩, ⟨2⟩, ⟨3⟩] (registerNode ∅)).model = registered := by
    decide
  have htyped : (Resolved.forEach registered [⟨1⟩, ⟨2⟩, ⟨3⟩] resolveDeclaration).model = address := by
    decide
  exact (Model.isBuilt_of_toOption_eq hread).isResolved_of_passes (by cbv) hids hregistered htyped (by cbv) (by cbv)

set_option maxRecDepth 20000 in
/-- `Person` gets a field of the type `Address`, which the report does not name. There is no finding either. -/
theorem complexField_dangling_address :
    address.IsResolved ∅ ∧
      .field (elementField address ({} : Config).accessorStyle (address.node ⟨3⟩)) ∈ (generate {} address).calls ∧
      (elementField address ({} : Config).accessorStyle (address.node ⟨3⟩)).type = .complex "Address" ∧
      ¬ (generate {} address).report.Names "Address" ∧ (generate {} address).report.findings = [] := by
  have hreport : (generate {} address).report = { emitted := ["Person"] } := by decide +kernel
  refine ⟨isResolved_address, by decide +kernel, by decide, ?_, ?_⟩
  · rw [hreport]
    rintro (hname | hname | hname) <;> simp at hname
  · rw [hreport]

end SchemaBinding.Run
