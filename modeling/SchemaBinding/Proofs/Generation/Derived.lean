import SchemaBinding.Proofs.Generation.References
import SchemaBinding.Proofs.Resolve.Extended

/-!
# `SchemaBinding.Proofs.Generation.Derived`: the block that a derived type builds on

A type that extends another one is generated after a block of the name that it begins with, and that block should have
the field for the name of the actual type. Two parts of the program see to this, and they do not look the base up in the
same way. Resolution marks the declaration that is registered for the base name. Generation takes that declaration only
if it is emittable, and else the last emittable one of the name at the top level (`generatedType?`).

`Begins.extensionField_mem_block_iff` says when the field is there: if the registry gives the generated declaration for
the base name, or if it does so for the base of some other declaration. An element that shares its name with a type and
is declared after it keeps the field away (`extensionField_not_mem_block_shadowedOrders`).
-/

set_option autoImplicit false

namespace SchemaBinding.Run

variable {r : Model} {names : NameTable} {config : Config}

/-- The block of a declaration tells all of its fields. -/
theorem extensionField_mem_typeBlock {id : NodeId} :
    .field (extensionField config.accessorStyle) ∈ typeBlock r config id ↔ (r.node id).isExtended = true := by
  unfold typeBlock
  rw [field_mem_typeCalls, extensionField_mem_fields]

theorem parent?_of_base {id parent : NodeId} {base : String} (hbase : (r.node id).base = some base)
    (hparent : generatedType? r base = some parent) : parent? r id = some parent := by
  unfold parent?
  simp [hbase, hparent]

/-- A type that extends a base begins with the name of a type that has been generated before. That type has the field
for the name of the actual type if and only if the registry gives its declaration for the base name, or for the base
of a third declaration. -/
theorem Begins.extensionField_mem_block_iff (hr : r.IsResolved names) {id parent : NodeId} {base : String}
    (h : Begins r config id) (hbase : (r.node id).base = some base) (hparent : generatedType? r base = some parent) :
    ∃ named front between back, Begins r config named ∧ (r.node named).cleanName = (r.node parent).cleanName ∧
      (generate config r).calls =
        front ++ typeBlock r config named ++ between ++ typeBlock r config id ++ back ∧
      (typeBlock r config id).head? = some (.beginType (some (r.node parent).cleanName) (r.node id).cleanName) ∧
      (.field (extensionField config.accessorStyle) ∈ typeBlock r config named ↔
        r.element? base = some named ∨
          ∃ other ∈ r.declarations, other ≠ id ∧ other ≠ named ∧ r.registeredBase? other = some named) := by
  have hparent? := parent?_of_base hbase hparent
  obtain ⟨named, front, between, back, hnamed, hclean, hne, hcalls⟩ := h.exists_blocks hparent?
  refine ⟨named, front, between, back, hnamed, hclean, hcalls, ?_, ?_⟩
  · unfold typeBlock
    rw [hparent?]
    rfl
  · have hheld : r.Holds named := lt_size_of_isEmittable hnamed.found.1.isEmittable
    have hdeclared : id ∈ r.declarations := hr.mem_declarations_of_isEmittable h.found.2 h.found.1.isEmittable
    have hregistered : r.registeredBase? id = r.element? base := by rw [Model.registeredBase?, hbase]; rfl
    rw [extensionField_mem_typeBlock, hr.isExtended_iff hheld]
    constructor
    · rintro ⟨other, hother, hself, hextends⟩
      -- The mark comes from the declaration itself, or from a third one.
      by_cases hid : other = id
      · rw [hid, hregistered] at hextends
        exact Or.inl hextends
      · exact Or.inr ⟨other, hother, hid, hself, hextends⟩
    · rintro (hextends | ⟨other, hother, -, hself, hextends⟩)
      · exact ⟨id, hdeclared, Ne.symm hne, hregistered.trans hextends⟩
      · exact ⟨other, hother, hself, hextends⟩

set_option maxRecDepth 20000 in
/-- The type `Order` is registered for its name, and its block has the field. -/
theorem extensionField_mem_block_orders :
    orders.IsResolved ∅ ∧ Begins orders {} ⟨2⟩ ∧ (orders.node ⟨2⟩).base = some "Order" ∧
      generatedType? orders "Order" = some ⟨1⟩ ∧
      ∃ named front between back, Begins orders {} named ∧ (orders.node named).cleanName = (orders.node ⟨1⟩).cleanName ∧
        (generate {} orders).calls = front ++ typeBlock orders {} named ++ between ++ typeBlock orders {} ⟨2⟩ ++ back ∧
        (typeBlock orders {} ⟨2⟩).head? =
          some (.beginType (some (orders.node ⟨1⟩).cleanName) (orders.node ⟨2⟩).cleanName) ∧
        (.field (extensionField ({} : Config).accessorStyle) ∈ typeBlock orders {} named ↔
          orders.element? "Order" = some named ∨ ∃ other ∈ orders.declarations,
            other ≠ ⟨2⟩ ∧ other ≠ named ∧ orders.registeredBase? other = some named) := by
  have hemitted : (atRest orders {}).report.emitted = ["Order", "Rush"] := by decide +kernel
  have hbegins : Begins orders {} ⟨2⟩ := by
    refine ((reached_atRest orders {}).begins_of_cleanName_mem (by decide) (by decide) ?_).1
    rw [hemitted]
    decide
  have hbase : (orders.node ⟨2⟩).base = some "Order" := by decide
  have hparent : generatedType? orders "Order" = some ⟨1⟩ := by decide
  exact ⟨isResolved_orders, hbegins, hbase, hparent,
    hbegins.extensionField_mem_block_iff isResolved_orders hbase hparent⟩

/-- The type `Rush` extends the type `Order`, which an element of the same name and of this type comes after. -/
def writtenShadow : Model where
  nodes := #[taggedNode .schema "schema" false [⟨1⟩, ⟨2⟩, ⟨3⟩],
    { taggedNode .complexType "Order" true [] with attributes := ⟨[("id", .declared "id" "string")]⟩ },
    { taggedNode .element "Order" true [] with rawType := "Order", isExplicitlyDefined := false },
    { taggedNode .complexType "Rush" true [] with base := some "Order" }]
  builtins := ⟨""⟩

/-- The same schema when its nodes have types. -/
def typedShadow : Model where
  nodes := #[taggedNode .schema "schema" false [⟨1⟩, ⟨2⟩, ⟨3⟩],
    { taggedNode .complexType "Order" true [] with
      attributes := ⟨[("id", { AttributeDef.declared "id" "string" with resolvedType := some .string })]⟩
      resolvedType := some (.named "Order")
      isComplex := true },
    { taggedNode .element "Order" true [] with
      rawType := "Order"
      isExplicitlyDefined := false
      resolvedType := some (.named "Order")
      isComplex := true },
    { taggedNode .complexType "Rush" true [] with
      base := some "Order"
      resolvedType := some (.named "Rush")
      isComplex := true }]
  symbols := { elements := .ofList [("Order", ⟨2⟩), ("Rush", ⟨3⟩)] }
  builtins := ⟨""⟩

/-- The same schema when it is resolved. The mark is on the element. -/
def shadowedOrders : Model := typedShadow.modifyNode ⟨2⟩ fun n => { n with isExtended := true }

set_option maxRecDepth 20000 in
theorem isResolved_shadowedOrders : shadowedOrders.IsResolved ∅ := by
  let order := enclosed "complexType" [("name", "Order")] (enclosed "attribute" [("name", "id")] [])
  let element := enclosed "element" [("name", "Order"), ("type", "Order")] []
  let rush := enclosed "complexType" [("name", "Rush")] (enclosed "complexContent" []
    (enclosed "extension" [("base", "Order")] []))
  have hread : (Model.ofEvents none (enclosed "schema" [] (order ++ element ++ rush))).toOption =
      some writtenShadow := by
    decide
  let registered : Model := { writtenShadow with symbols := typedShadow.symbols }
  have hids : writtenShadow.declarations = [⟨1⟩, ⟨2⟩, ⟨3⟩] := by cbv
  have hregistered : (Resolved.forEach writtenShadow [⟨1⟩, ⟨2⟩, ⟨3⟩] (registerNode ∅)).model = registered := by
    decide
  have htyped : (Resolved.forEach registered [⟨1⟩, ⟨2⟩, ⟨3⟩] resolveDeclaration).model = typedShadow := by
    decide
  exact (Model.isBuilt_of_toOption_eq hread).isResolved_of_passes (by cbv) hids hregistered htyped (by cbv) (by cbv)

set_option maxRecDepth 20000 in
/-- `Rush` begins with the name `Order`, but no type has the field for the name of the actual type. -/
theorem extensionField_not_mem_block_shadowedOrders :
    shadowedOrders.IsResolved ∅ ∧ Begins shadowedOrders {} ⟨3⟩ ∧
      (shadowedOrders.node ⟨3⟩).base = some "Order" ∧ generatedType? shadowedOrders "Order" = some ⟨1⟩ ∧
      .beginType (some "Order") "Rush" ∈ (generate {} shadowedOrders).calls ∧
      .field (extensionField ({} : Config).accessorStyle) ∉ (generate {} shadowedOrders).calls := by
  have hemitted : (atRest shadowedOrders {}).report.emitted = ["Order", "Rush"] := by decide +kernel
  have hbegins : Begins shadowedOrders {} ⟨3⟩ := by
    refine ((reached_atRest shadowedOrders {}).begins_of_cleanName_mem (by decide) (by decide) ?_).1
    rw [hemitted]
    decide
  exact ⟨isResolved_shadowedOrders, hbegins, by decide, by decide, by decide +kernel, by decide +kernel⟩

end SchemaBinding.Run
