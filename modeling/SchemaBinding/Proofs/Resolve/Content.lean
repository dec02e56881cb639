import Mathlib.Data.List.Permutation
import SchemaBinding.Proofs.Resolve.AttributeNames
import SchemaBinding.Proofs.Resolve.Once

/-!
# `SchemaBinding.Proofs.Resolve.Content`: declarations with content of their own

A declaration with content names no type, and goes by its own name where a type name is asked for. It becomes a generated
type if it has attributes or if this name stands for a type (`StandsForType`): the name is not that of a built-in type, and
following the registered declarations from it leads to one that is its own type (`LeadsToOwnType`).

`Model.IsBuilt.isEmittable_iff` says so for every declaration without a simple type inside of it. Where there is content,
the name is registered. So what can stand between the content and its type is something else under the name: a built-in
type, a simple type, or a later declaration that took its place (`Model.IsBuilt.isEmittable_iff_of_content`).
-/

set_option autoImplicit false

namespace SchemaBinding

/-- The names from which some steps lead to a declaration that is its own type. -/
inductive LeadsToOwnType (m : Model) : Nat → String → Prop where
  | own {room : Nat} {name : String} {id : NodeId} (h : OwnType m name id) : LeadsToOwnType m (room + 1) name
  | onward {room : Nat} {name next : String} {id : NodeId} (hid : m.element? name = some id)
      (htype : m.builtins.classify (m.node id).declaredType = .named next) (hother : next ≠ name)
      (hsimple : m.simpleType? next = none) (hnext : LeadsToOwnType m room next) : LeadsToOwnType m (room + 1) name

/-- The name stands for a type that is declared with content, and not for a built-in or a simple one. -/
def StandsForType (m : Model) (name : String) : Prop :=
  m.builtins.classify name = .named name ∧ LeadsToOwnType m (maxAliasHops + 1) name

section chains

variable {m m' : Model} {owner name next : String} {room : Nat}

/-- From a registered declaration whose type is named, a step stays where it is or leads on. -/
theorem leadsToOwnType_iff {id : NodeId} (hid : m.element? name = some id)
    (htype : m.builtins.classify (m.node id).declaredType = .named next) :
    LeadsToOwnType m (room + 1) name ↔
      m.simpleType? next = none ∧ (next = name ∨ next ≠ name ∧ LeadsToOwnType m room next) := by
  constructor
  · intro h
    cases h with
    | own h =>
        obtain rfl : id = _ := Option.some.inj (hid.symm.trans h.registered)
        obtain rfl : next = name := TypeRef.named.inj (htype.symm.trans h.typed)
        exact ⟨h.notSimple, Or.inl rfl⟩
    | onward hid' htype' hother hsimple hnext =>
        obtain rfl : id = _ := Option.some.inj (hid.symm.trans hid')
        obtain rfl : next = _ := TypeRef.named.inj (htype.symm.trans htype')
        exact ⟨hsimple, Or.inr ⟨hother, hnext⟩⟩
  · rintro ⟨hsimple, rfl | ⟨hother, hnext⟩⟩
    · exact .own ⟨hid, htype, hsimple⟩
    · exact .onward hid htype hother hsimple hnext

/-- Where a declaration has a built-in type, nothing leads from it. -/
theorem not_leadsToOwnType {id : NodeId} (hid : m.element? name = some id)
    (htype : ∀ next, m.builtins.classify (m.node id).declaredType ≠ .named next) : ¬ LeadsToOwnType m room name := by
  intro h
  cases h with
  | own h =>
      obtain rfl : id = _ := Option.some.inj (hid.symm.trans h.registered)
      exact htype _ h.typed
  | onward hid' htype' =>
      obtain rfl : id = _ := Option.some.inj (hid.symm.trans hid')
      exact htype _ htype'

theorem LeadsToOwnType.exists_element? (h : LeadsToOwnType m room name) : ∃ id, m.element? name = some id := by
  cases h with
  | own h => exact ⟨_, h.registered⟩
  | onward hid => exact ⟨_, hid⟩

/-- It does not depend on what nodes come to be known of. -/
theorem LeadsToOwnType.of_keeps (h : LeadsToOwnType m room name)
    (hkeep : Model.Keeps Node.declaredType (fun s => s) m m') : LeadsToOwnType m' room name := by
  have helements : m'.element? = m.element? := (hkeep.of_known Symbols.elements).element?_eq
  have hsimples : m'.simpleType? = m.simpleType? := (hkeep.of_known Symbols.simpleTypes).simpleType?_eq
  induction h with
  | own h => exact .own (h.of_keeps hkeep)
  | onward hid htype hother hsimple _ ih =>
      refine .onward (helements ▸ hid) ?_ hother (hsimples ▸ hsimple) ih
      rw [hkeep.builtins, hkeep.node]
      exact htype

theorem leadsToOwnType_congr (hkeep : Model.Keeps Node.declaredType (fun s => s) m m') :
    LeadsToOwnType m' room name ↔ LeadsToOwnType m room name :=
  ⟨fun h => h.of_keeps hkeep.symm, fun h => h.of_keeps hkeep⟩

/-- A chain of registered declarations makes a complex type if and only if it comes to one that is its own type. -/
theorem isComplex_chaseElementsFrom_iff {start : String} {facets : Option Facets} :
    (chaseElementsFrom m owner start room facets name).1.isComplex = true ↔ LeadsToOwnType m room name := by
  induction room generalizing facets name with
  | zero =>
      constructor
      · intro h
        cases h
      · intro h
        cases h
  | succ room ih =>
      unfold chaseElementsFrom
      cases hid : m.element? name with
      | none =>
          have hnone : ¬ LeadsToOwnType m (room + 1) name := fun h => by
            obtain ⟨id, hid'⟩ := h.exists_element?
            cases hid.symm.trans hid'
          simp [Resolution.ofPrimitive, hnone]
      | some id =>
          dsimp only
          cases htype : m.builtins.classify (m.node id).declaredType with
          | primitive p =>
              have hnone : ¬ LeadsToOwnType m (room + 1) name := not_leadsToOwnType hid (by simp [htype])
              simp [elementStep, htype, Resolution.ofPrimitive, hnone]
          | anyType =>
              have hnone : ¬ LeadsToOwnType m (room + 1) name := not_leadsToOwnType hid (by simp [htype])
              simp [elementStep, htype, hnone]
          | named next =>
              rw [leadsToOwnType_iff hid htype]
              by_cases hsimple : m.simpleType? next = none
              · by_cases hself : next = name
                · simp [elementStep, htype, hself ▸ hsimple, hself, Resolution.complex]
                · cases hnext : m.element? next with
                  | none =>
                      -- Nothing is declared under the name that comes next.
                      have hnone : ¬ LeadsToOwnType m room next := fun h => by
                        obtain ⟨x, hx⟩ := h.exists_element?
                        cases hnext.symm.trans hx
                      simp [elementStep, htype, hsimple, hself, hnext, hnone, Resolution.ofPrimitive]
                  | some x =>
                      have hstep : elementStep m owner name (m.node id) = .onward next := by
                        simp [elementStep, htype, hsimple, hself, hnext]
                      rw [hstep]
                      dsimp only
                      rw [ih]
                      simp [hsimple, hself]
              · obtain ⟨d, hd⟩ := Option.ne_none_iff_exists'.mp hsimple
                simp [elementStep, htype, hd, Resolution.ofChain]

theorem isComplex_resolveDeclaredType_iff {n : Node} :
    (resolveDeclaredType m n).1.isComplex = true ↔
      ∃ name, m.builtins.classify n.declaredType = .named name ∧ LeadsToOwnType m (maxAliasHops + 1) name := by
  unfold resolveDeclaredType
  cases htype : m.builtins.classify n.declaredType with
  | primitive p => simp [Resolution.ofPrimitive]
  | anyType => simp
  | named name =>
      cases hid : m.element? name with
      | some id =>
          have hchase : (chaseElementsFrom m n.name name (maxAliasHops + 1) none name).1.isComplex = true ↔
              LeadsToOwnType m (maxAliasHops + 1) name := isComplex_chaseElementsFrom_iff
          simp only [hid, Option.isSome_some, if_true, chaseElements, hchase, TypeRef.named.injEq, exists_eq_left']
      | none =>
          have hnone : ¬ LeadsToOwnType m (maxAliasHops + 1) name := fun h => by
            obtain ⟨id, hid'⟩ := h.exists_element?
            cases hid.symm.trans hid'
          have hcontentless : (contentless m n).isComplex = false := by
            unfold contentless
            split <;> rfl
          cases hsimple : m.simpleType? name with
          | some d => simp [hid, hsimple, hnone, Resolution.ofChain]
          | none =>
              by_cases hraw : n.rawType.isEmpty <;>
                simp [hid, hsimple, hnone, hraw, hcontentless, Resolution.ofPrimitive]

end chains

/-! ### The passes -/

/-- A type name that is not built in stands for its local part. -/
theorem key_of_classify {builtins : Builtins} {raw key : String} (h : builtins.classify raw = .named key) :
    key = localPart raw := by
  unfold Builtins.classify at h
  split at h
  · cases h
  · split at h
    · cases h
    · exact (TypeRef.named.inj h).symm

/-- A declaration that is resolved by its name becomes complex if it has attributes, or if its name leads to a type. -/
theorem isComplex_resolveTypes_iff {m : Model} {id : NodeId} (hid : id ∈ m.declarations)
    (hwildcard : (m.node id).isWildcard = false) (hinline : (m.node id).inlineSimpleType? m = none) :
    ((resolveTypes m).model.node id).isComplex = true ↔ (m.node id).attributes.isEmpty = false ∨
      ∃ name, m.builtins.classify (m.node id).declaredType = .named name ∧
        LeadsToOwnType m (maxAliasHops + 1) name := by
  obtain ⟨moment, collapse, hkeep, hview⟩ := exists_resolution_of_declaration (f := Node.isComplex) (fun _ _ => rfl) hid
  have hsimple : moment.simpleType? = m.simpleType? := (hkeep.of_known Symbols.simpleTypes).simpleType?_eq
  have hinline' : (m.node id).inlineSimpleType? moment = none := by
    unfold Node.inlineSimpleType? at hinline ⊢
    rwa [hsimple]
  have hresolve : resolveNode moment (m.node id) = resolveDeclaredType moment (m.node id) := by
    simp [resolveNode, hwildcard, hinline']
  rw [hview, hresolve]
  show (!(m.node id).attributes.isEmpty || (resolveDeclaredType moment (m.node id)).1.isComplex) = true ↔ _
  rw [Bool.or_eq_true, isComplex_resolveDeclaredType_iff, hkeep.builtins]
  simp only [leadsToOwnType_congr hkeep, Bool.not_eq_true']

/-! ### Resolved models -/

/-- A declaration that names no type and has no simple type inside of it becomes complex if it has attributes, or if its
name leads to a type. -/
theorem isComplex_resolve_iff {names : NameTable} {m : Model} {id : NodeId} (hid : id ∈ (resolve names m).model.declarations)
    (hkind : (m.node id).kind = .element ∨ (m.node id).kind = .complexType) (hraw : (m.node id).rawType = "")
    (hinline : (m.node id).simpleTypeName = none) :
    ((resolve names m).model.node id).isComplex = true ↔
      ((resolve names m).model.node id).attributes.isEmpty = false ∨
        ∃ key, (resolve names m).model.builtins.classify (m.node id).name = .named key ∧
          LeadsToOwnType (resolve names m).model (maxAliasHops + 1) key := by
  -- What the pass for types starts from.
  have hbefore : Model.Keeps (fun n => (n.kind, n.name, n.rawType, n.simpleTypeName)) (fun _ => ()) m
      (Stage.registered names m) :=
    keeps_untyped names m (fun _ _ => rfl) (fun _ _ => rfl) (fun _ => rfl) fun _ _ _ => rfl
  obtain ⟨hkind', hname', hraw', hinline'⟩ : ((Stage.registered names m).node id).kind = (m.node id).kind ∧
      ((Stage.registered names m).node id).name = (m.node id).name ∧
      ((Stage.registered names m).node id).rawType = (m.node id).rawType ∧
      ((Stage.registered names m).node id).simpleTypeName = (m.node id).simpleTypeName := by
    simpa using hbefore.node id
  have hwildcard : ((Stage.registered names m).node id).isWildcard = false := by
    rcases hkind with hkind | hkind <;> simp [Node.isWildcard, hkind', hkind]
  have hnone : ((Stage.registered names m).node id).inlineSimpleType? (Stage.registered names m) = none := by
    simp [Node.inlineSimpleType?, hinline', hinline]
  have hdeclared : ((Stage.registered names m).node id).declaredType = (m.node id).name := by
    simp [Node.declaredType, hraw', hraw, hname']
  have hpass := isComplex_resolveTypes_iff (declarations_registered names m ▸ hid) hwildcard hnone
  rw [hdeclared] at hpass
  -- What comes after it.
  have hall : Model.Keeps Node.declaredType (fun s => s) (Stage.registered names m) (resolve names m).model :=
    keeps_registered names m (fun _ _ => rfl) (fun _ _ _ => rfl) (fun _ _ _ => rfl) fun _ => rfl
  have hlater : Model.Keeps Node.isComplex (fun _ => ()) (Stage.typed names m) (resolve names m).model :=
    keeps_typed names m (fun _ _ => rfl) (fun _ _ _ => rfl) fun _ => rfl
  -- No pass takes all attributes away, or gives a node the first one.
  have hattributes : Model.Keeps (fun n => (n.attributes.values.map (·.name)).isEmpty) (fun _ => ())
      (Stage.registered names m) (resolve names m).model := (keeps_names names m).of_view List.isEmpty
  have hempty : ((resolve names m).model.node id).attributes.isEmpty =
      ((Stage.registered names m).node id).attributes.isEmpty := by
    simpa [Table.isEmpty, Table.values] using hattributes.node id
  rw [hlater.node, hempty, hall.builtins]
  simp only [leadsToOwnType_congr hall]
  exact hpass

namespace Model.IsResolved

variable {names : NameTable} {r : Model} {id : NodeId}

/-- The name of a declaration that is registered itself stands for a type unless it is the name of a built-in or of a
simple type. -/
theorem standsForType_iff_of_element? (h : r.IsResolved names) (hexplicit : (r.node id).isExplicitlyDefined = true)
    (hid : r.element? (r.node id).name = some id) : StandsForType r (r.node id).name ↔
      r.builtins.classify (r.node id).name = .named (r.node id).name ∧ r.simpleType? (r.node id).name = none := by
  have hraw := (h.written_of_isExplicitlyDefined hexplicit).2.2.2
  have hdeclared : (r.node id).declaredType = (r.node id).name := by simp [Node.declaredType, hraw]
  refine and_congr_right fun hclass => ?_
  rw [leadsToOwnType_iff hid (hdeclared.symm ▸ hclass)]
  simp [hdeclared]

end Model.IsResolved

namespace Model.IsBuilt

variable {m : Model} {id : NodeId}

/-- A declaration without a simple type inside of it becomes a generated type if and only if it has attributes or its
name stands for a type. -/
theorem isEmittable_iff (h : m.IsBuilt) (names : NameTable) (hreaches : (resolve names m).model.Reaches root id)
    (hexplicit : (m.node id).isExplicitlyDefined = true) (hinline : (m.node id).simpleTypeName = none) :
    ((resolve names m).model.node id).isEmittable = true ↔
      ((resolve names m).model.node id).attributes.isEmpty = false ∨
        StandsForType (resolve names m).model (m.node id).name := by
  obtain ⟨hheld, -, hnew⟩ := h.isNew_of_isExplicitlyDefined hexplicit
  obtain ⟨hkind, hraw, hlocal⟩ := hnew.isExplicitlyDefined hexplicit
  have hexplicit' : ((resolve names m).model.node id).isExplicitlyDefined = true :=
    (congrArg Node.isExplicitlyDefined ((keeps_written names m).node id)).trans hexplicit
  have hcomplex := isComplex_resolve_iff (mem_declarations_resolve hheld hkind hreaches) hkind hraw hinline
  rw [Node.isEmittable_iff, hexplicit', hcomplex]
  refine (and_iff_right rfl).trans (or_congr_right ?_)
  constructor
  · rintro ⟨key, hclass, hleads⟩
    obtain rfl : key = (m.node id).name := (key_of_classify hclass).trans hlocal
    exact ⟨hclass, hleads⟩
  · rintro ⟨hclass, hleads⟩
    exact ⟨_, hclass, hleads⟩

/-- Where there is content and a name, the name is registered. If no other declaration has taken the place, all that can
keep the content from being a type is a built-in or a simple type of the name. -/
theorem isEmittable_iff_of_content {names : NameTable} {r : Model} (h : m.IsBuilt) (hr : (resolve names m).model = r)
    (hreaches : r.Reaches root id) (hexplicit : (r.node id).isExplicitlyDefined = true)
    (hinline : (m.node id).simpleTypeName = none) (hcontent : r.children id ≠ []) :
    ((r.node id).isEmittable = true ↔
        (r.node id).attributes.isEmpty = false ∨ StandsForType r (r.node id).name) ∧
      ((r.node id).name ≠ "" →
        ∃ x, r.element? (r.node id).name = some x ∧ (r.node x).name = (r.node id).name) ∧
      (r.element? (r.node id).name = some id →
        (StandsForType r (r.node id).name ↔
          r.builtins.classify (r.node id).name = .named (r.node id).name ∧ r.simpleType? (r.node id).name = none)) := by
  subst hr
  have hresolved := h.isResolved names
  have hwritten := (keeps_written names m).node id
  have hname := congrArg Node.name hwritten
  have hbefore := congrArg Node.isExplicitlyDefined hwritten
  have hmem := hresolved.mem_declarations_of_isExplicitlyDefined hreaches hexplicit
  refine ⟨?emittable, ?registered, ?itself⟩
  case emittable =>
    have hemittable := h.isEmittable_iff names hreaches (hbefore.symm.trans hexplicit) hinline
    rwa [show (m.node id).name = ((resolve names m).model.node id).name from hname.symm] at hemittable
  case registered =>
    exact fun hne => hresolved.exists_element?_of_content hmem hne hcontent
  case itself =>
    exact hresolved.standsForType_iff_of_element? hexplicit

end Model.IsBuilt

/-! ### Two documents -/

/-- An element of the string type. -/
def stringElement (name : String) (isTopLevel : Bool) : Node :=
  { taggedNode .element name isTopLevel [] with rawType := "string", isExplicitlyDefined := false }

/-- The same when it has its type. -/
def typedElement (name : String) (isTopLevel : Bool) : Node :=
  { stringElement name isTopLevel with resolvedType := some (.primitive .string) }

/-- An element of the string type, and after it a type of the same name with one element. -/
def writtenOrderType : Model where
  nodes := #[taggedNode .schema "schema" false [⟨1⟩, ⟨2⟩], stringElement "Order" true,
    taggedNode .complexType "Order" true [⟨3⟩], stringElement "item" false]
  builtins := ⟨""⟩

/-- The same schema when it is resolved. -/
def orderType : Model where
  nodes := #[taggedNode .schema "schema" false [⟨1⟩, ⟨2⟩], typedElement "Order" true,
    { taggedNode .complexType "Order" true [⟨3⟩] with resolvedType := some (.named "Order"), isComplex := true },
    typedElement "item" false]
  symbols := { elements := .ofList [("Order", ⟨2⟩)] }
  builtins := ⟨""⟩

set_option maxRecDepth 20000 in
theorem resolve_writtenOrderType : writtenOrderType.IsBuilt ∧ (resolve ∅ writtenOrderType).model = orderType := by
  let order := enclosed "complexType" [("name", "Order")] (enclosed "element" [("name", "item"), ("type", "string")] [])
  have hread : (Model.ofEvents none (enclosed "schema" []
      (enclosed "element" [("name", "Order"), ("type", "string")] [] ++ order))).toOption = some writtenOrderType := by
    decide
  let registered : Model := { writtenOrderType with symbols := orderType.symbols }
  have hids : writtenOrderType.declarations = [⟨1⟩, ⟨2⟩, ⟨3⟩] := by cbv
  have hregistered : (Resolved.forEach writtenOrderType [⟨1⟩, ⟨2⟩, ⟨3⟩] (registerNode ∅)).model = registered := by
    decide
  have htyped : (Resolved.forEach registered [⟨1⟩, ⟨2⟩, ⟨3⟩] resolveDeclaration).model = orderType := by
    decide
  exact ⟨Model.isBuilt_of_toOption_eq hread, Model.resolve_of_passes (by cbv) hids hregistered htyped (by cbv) (by cbv)⟩

/-- The type has come last, and so it is the one that the name stands for. -/
theorem isEmittable_orderType :
    writtenOrderType.IsBuilt ∧ (resolve ∅ writtenOrderType).model = orderType ∧ orderType.Reaches Model.root ⟨2⟩ ∧
      orderType.children ⟨2⟩ ≠ [] ∧ ((orderType.node ⟨2⟩).isEmittable = true ↔
        (orderType.node ⟨2⟩).attributes.isEmpty = false ∨ StandsForType orderType "Order") := by
  obtain ⟨hbuilt, hresolved⟩ := resolve_writtenOrderType
  have hreaches : orderType.Reaches Model.root ⟨2⟩ := .single (by decide)
  have hcontent : orderType.children ⟨2⟩ ≠ [] := by decide
  exact ⟨hbuilt, hresolved, hreaches, hcontent,
    (hbuilt.isEmittable_iff_of_content hresolved hreaches rfl rfl hcontent).1⟩

/-- Three declarations with content: one whose name is that of a later element of the string type, one that goes by the
name of a built-in type, and one by that of a simple type. -/
def writtenDiverted : Model where
  nodes := #[taggedNode .schema "schema" false [⟨1⟩, ⟨3⟩, ⟨4⟩, ⟨6⟩],
    taggedNode .complexType "Order" true [⟨2⟩], stringElement "item" false, stringElement "Order" true,
    taggedNode .element "date" true [⟨5⟩], stringElement "item" false,
    taggedNode .element "Size" true [⟨7⟩], stringElement "item" false]
  symbols := { simpleTypes := .ofList [("Size", { name := "Size" })], topLevelSimpleTypes := ["Size"] }
  builtins := ⟨""⟩

/-- The same schema when it is resolved. -/
def diverted : Model where
  nodes := #[taggedNode .schema "schema" false [⟨1⟩, ⟨3⟩, ⟨4⟩, ⟨6⟩],
    { taggedNode .complexType "Order" true [⟨2⟩] with resolvedType := some (.primitive .string) },
    typedElement "item" false, typedElement "Order" true,
    { taggedNode .element "date" true [⟨5⟩] with resolvedType := some (.primitive .date) }, typedElement "item" false,
    { taggedNode .element "Size" true [⟨7⟩] with
      resolvedType := some (.primitive .string)
      simpleTypeName := some "Size" },
    typedElement "item" false]
  symbols := { writtenDiverted.symbols with elements := .ofList [("Order", ⟨3⟩), ("date", ⟨4⟩), ("Size", ⟨6⟩)] }
  builtins := ⟨""⟩

set_option maxRecDepth 20000 in
/-- None of them becomes a type, though each is reached, has content and no simple type inside of it. -/
theorem not_isEmittable_diverted :
    writtenDiverted.IsBuilt ∧ (resolve ∅ writtenDiverted).model = diverted ∧
      ∀ id ∈ [(⟨1⟩ : NodeId), ⟨4⟩, ⟨6⟩], diverted.Reaches Model.root id ∧ (diverted.node id).isExplicitlyDefined = true ∧
        (writtenDiverted.node id).simpleTypeName = none ∧ diverted.children id ≠ [] ∧
          (diverted.node id).isEmittable = false := by
  let item := enclosed "element" [("name", "item"), ("type", "string")] []
  let order := enclosed "complexType" [("name", "Order")] item ++
    enclosed "element" [("name", "Order"), ("type", "string")] []
  let date := enclosed "element" [("name", "date")] item
  let size := enclosed "simpleType" [("name", "Size")] [] ++ enclosed "element" [("name", "Size")] item
  have hread : (Model.ofEvents none (enclosed "schema" [] (order ++ date ++ size))).toOption = some writtenDiverted := by
    decide +kernel
  let ids : List NodeId := [⟨1⟩, ⟨2⟩, ⟨3⟩, ⟨4⟩, ⟨5⟩, ⟨6⟩, ⟨7⟩]
  let registered : Model := { writtenDiverted with symbols := diverted.symbols }
  have hids : writtenDiverted.declarations = ids := by cbv
  have hregistered : (Resolved.forEach writtenDiverted ids (registerNode ∅)).model = registered := by decide +kernel
  have htyped : (Resolved.forEach registered ids resolveDeclaration).model = diverted := by decide +kernel
  refine ⟨Model.isBuilt_of_toOption_eq hread,
    Model.resolve_of_passes (by cbv) hids hregistered htyped (by cbv) (by cbv), ?_⟩
  intro id hid
  have hchild : id ∈ diverted.children Model.root := by
    revert id
    decide
  refine ⟨.single hchild, ?_⟩
  revert id
  decide

end SchemaBinding
