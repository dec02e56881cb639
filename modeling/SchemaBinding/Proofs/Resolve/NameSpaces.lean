import SchemaBinding.Proofs.Builder.TypeNames
import SchemaBinding.Proofs.Resolve.Content
import SchemaBinding.Proofs.Resolve.ElementChains

/-!
# `SchemaBinding.Proofs.Resolve.NameSpaces`: types and elements of one name

A type name refers to types, but what is registered under names are elements as well as complex types, and a node looks for
its type among them before it looks among simple types (`namedType`). So an element with the name of a simple type may come
in the way of the references to this type. It does so if it is of another type itself (`Captures`).

* `typing_namedType_of_free`: where no element comes in the way, the type is what the chain of simple types comes down to.
* `typing_namedType_of_captor`: otherwise it is the type of that element.
* `typing_resolveTypes` and `typing_resolve` carry this through the pass for types and to the end. The models in between have
  the same names and types, and differ in what is resolved already (`typing_namedType_congr`).

`Model.typing_of_simpleType` puts these together for the documents that are read.
-/

set_option autoImplicit false

namespace SchemaBinding

/-- What a node counts as when it has its type: this type, and whether its value is a list. -/
def Node.typing (n : Node) : Option ResolvedType × Bool := (n.resolvedType, n.isListType)

def Resolution.typing (r : Resolution) : Option ResolvedType × Bool := (some r.type, r.isList)

/-- The same of what a chain of simple types comes down to. -/
def SimpleChain.typing (chain : SimpleChain) : Option ResolvedType × Bool :=
  (some (.primitive chain.primitiveOrString), chain.isList)

/-- What a type name that is not built in stands for, if a simple type has the name. -/
def namedType (m : Model) (owner name : String) : Resolution :=
  if (m.element? name).isSome then (chaseElements m owner name).1 else .ofChain name (chaseSimple m owner name).1

/-- A declaration that has the name, and a type which is another one than that of the name. -/
structure Captures (m : Model) (name : String) (id : NodeId) : Prop where
  registered : m.element? name = some id
  diverted : m.builtins.classify (m.node id).declaredType ≠ .named name

/-! ### What stands for a name -/

section names

variable {m m' : Model} {owner start name : String} {id : NodeId}

/-- Where no element comes in the way, the type of a name is that of its simple type. -/
theorem typing_namedType_of_free (owner : String) (hfree : ∀ id, ¬ Captures m name id)
    (hsimple : (m.simpleType? name).isSome = true) :
    (namedType m owner name).typing = (chaseSimple m owner name).1.typing := by
  unfold namedType
  cases hid : m.element? name with
  | none => rfl
  | some id =>
      -- The declaration of this name leads to the simple type, as that is the first thing a step looks for.
      have htype : m.builtins.classify (m.node id).declaredType = .named name :=
        Decidable.not_not.mp fun hother => hfree id ⟨hid, hother⟩
      have hstep : elementStep m owner name (m.node id) =
          .done (.ofChain name (chaseSimple m owner name).1) (chaseSimple m owner name).2 := by
        simp only [elementStep, htype, hsimple, if_true]
      rw [Option.isSome_some, if_pos rfl, chaseElements, chaseElementsFrom_of_stop hid hstep]
      rfl

/-- Where one comes in the way, the type of the name is that of the element. -/
theorem typing_namedType_of_captor (owner : String) (hid : Captures m name id) :
    (namedType m owner name).typing = (chaseElements m owner name).1.typing ∧
      ∀ p, m.builtins.classify (m.node id).declaredType = .primitive p →
        (namedType m owner name).typing = (some (.primitive p), false) := by
  unfold namedType
  rw [hid.registered, Option.isSome_some, if_pos rfl]
  refine ⟨rfl, fun p htype => ?_⟩
  have hstep : elementStep m owner name (m.node id) = .done (.ofPrimitive p) [] := by
    simp only [elementStep, htype]
  rw [chaseElements, chaseElementsFrom_of_stop hid.registered hstep]
  rfl

/-! ### Names in models that are the same but for what is resolved -/

theorem chaseSimple_congr (hsimple : m'.simpleType? = m.simpleType?) (hbuiltins : m'.builtins = m.builtins)
    (owner start : String) : chaseSimple m' owner start = chaseSimple m owner start := by
  have hfrom : ∀ room chain name,
      chaseSimpleFrom m' owner start room chain name = chaseSimpleFrom m owner start room chain name := by
    intro room
    induction room with
    | zero =>
        intro chain name
        unfold chaseSimpleFrom
        rw [hsimple, hbuiltins]
    | succ room ih =>
        intro chain name
        unfold chaseSimpleFrom
        simp only [hsimple, hbuiltins, ih]
  exact hfrom maxAliasHops {} start

variable (hkeep : Model.Keeps Node.declaredType (fun s => s) m m')
include hkeep

theorem elementStep_congr (owner name : String) (id : NodeId) :
    elementStep m' owner name (m'.node id) = elementStep m owner name (m.node id) := by
  have hsimple : m'.simpleType? = m.simpleType? := (hkeep.of_known Symbols.simpleTypes).simpleType?_eq
  have helement : m'.element? = m.element? := (hkeep.of_known Symbols.elements).element?_eq
  unfold elementStep
  simp only [hkeep.node, hkeep.builtins, hsimple, helement, chaseSimple_congr hsimple hkeep.builtins]

/-- Facets on the way may be resolved already, but they do not show in the type. -/
theorem typing_chaseElementsFrom_congr (owner start : String) (room : Nat) (facets facets' : Option Facets) (name : String) :
    (chaseElementsFrom m' owner start room facets' name).1.typing =
      (chaseElementsFrom m owner start room facets name).1.typing := by
  have helement : m'.element? = m.element? := (hkeep.of_known Symbols.elements).element?_eq
  induction room generalizing facets facets' name with
  | zero => rfl
  | succ room ih =>
      unfold chaseElementsFrom
      rw [helement]
      cases m.element? name with
      | none => rfl
      | some id =>
          dsimp only
          rw [elementStep_congr hkeep]
          cases elementStep m owner name (m.node id) with
          | done r findings => rfl
          | onward next => exact ih _ _ next

theorem typing_namedType_congr (owner name : String) :
    (namedType m' owner name).typing = (namedType m owner name).typing := by
  have hsimple : m'.simpleType? = m.simpleType? := (hkeep.of_known Symbols.simpleTypes).simpleType?_eq
  have helement : m'.element? = m.element? := (hkeep.of_known Symbols.elements).element?_eq
  unfold namedType
  rw [helement, chaseSimple_congr hsimple hkeep.builtins]
  split
  · exact typing_chaseElementsFrom_congr hkeep owner name _ _ _ name
  · rfl

end names

/-! ### The pass, and the passes after it -/

section passes

variable {m : Model} {id : NodeId} {key : String}

theorem resolveNode_of_named {n : Node} (hkind : n.kind = .element) (hraw : n.rawType ≠ "")
    (htype : m.builtins.classify n.declaredType = .named key) (hsimple : (m.simpleType? key).isSome = true) :
    (resolveNode m n).1 = namedType m n.name key := by
  have hwildcard : n.isWildcard = false := by simp [Node.isWildcard, hkind]
  have hinline : n.inlineSimpleType? m = none := by simp [Node.inlineSimpleType?, hraw]
  unfold resolveNode resolveDeclaredType namedType
  simp only [hwildcard, Bool.false_eq_true, if_false, hinline, htype, hsimple, if_true]
  split <;> rfl

/-- A node with the name of a simple type gets the type that the name stands for. -/
theorem typing_resolveTypes (hid : id ∈ m.declarations) (hkind : (m.node id).kind = .element)
    (hraw : (m.node id).rawType ≠ "") (htype : m.builtins.classify (m.node id).declaredType = .named key)
    (hsimple : (m.simpleType? key).isSome = true) :
    ((resolveTypes m).model.node id).typing = (namedType m (m.node id).name key).typing := by
  obtain ⟨moment, collapse, hkeep, hview⟩ :=
    exists_resolution_of_declaration (f := Node.typing) (fun _ _ => rfl) hid
  have hlookup : moment.simpleType? = m.simpleType? := (hkeep.of_known Symbols.simpleTypes).simpleType?_eq
  have hresolve : (resolveNode moment (m.node id)).1 = namedType moment (m.node id).name key :=
    resolveNode_of_named hkind hraw (hkeep.builtins ▸ htype) (hlookup ▸ hsimple)
  calc ((resolveTypes m).model.node id).typing
      = (resolveNode moment (m.node id)).1.typing := hview
    _ = (namedType moment (m.node id).name key).typing := by rw [hresolve]
    _ = (namedType m (m.node id).name key).typing := typing_namedType_congr hkeep _ key

/-- The same when all passes are done. -/
theorem typing_resolve (names : NameTable) (hreaches : (resolve names m).model.Reaches Model.root id) (hheld : m.Holds id)
    (hkind : (m.node id).kind = .element) (hraw : (m.node id).rawType ≠ "")
    (htype : m.builtins.classify (m.node id).declaredType = .named key) (hsimple : (m.simpleType? key).isSome = true) :
    ((resolve names m).model.node id).typing =
      (namedType (resolve names m).model ((resolve names m).model.node id).name key).typing := by
  -- What the pass for types starts from.
  have hbefore : Model.Keeps (fun n => (n.kind, n.rawType, n.declaredType)) Symbols.simpleTypes m
      (Stage.registered names m) :=
    keeps_untyped names m (fun _ _ => rfl) (fun _ _ => rfl) (fun _ => rfl) fun _ _ _ => rfl
  obtain ⟨hkind', hraw', htype'⟩ : ((Stage.registered names m).node id).kind = (m.node id).kind ∧
      ((Stage.registered names m).node id).rawType = (m.node id).rawType ∧
      ((Stage.registered names m).node id).declaredType = (m.node id).declaredType := by
    simpa using hbefore.node id
  have hmem : id ∈ (Stage.registered names m).declarations := by
    rw [declarations_registered]
    exact mem_declarations_resolve hheld (.inl hkind) hreaches
  have hpass : ((Stage.typed names m).node id).typing =
      (namedType (Stage.registered names m) ((Stage.registered names m).node id).name key).typing := by
    refine typing_resolveTypes hmem (hkind'.trans hkind) (hraw' ▸ hraw) ?_ ?_
    · rw [hbefore.builtins, htype', htype]
    · rw [hbefore.simpleType?_eq, hsimple]
  -- What comes after it.
  have hlater : Model.Keeps Node.typing (fun _ => ()) (Stage.typed names m) (resolve names m).model :=
    keeps_typed names m (fun _ _ => rfl) (fun _ _ _ => rfl) fun _ => rfl
  have hall : Model.Keeps (fun n => (n.declaredType, n.name)) (fun s => s) (Stage.registered names m)
      (resolve names m).model :=
    keeps_registered names m (fun _ _ => rfl) (fun _ _ _ => rfl) (fun _ _ _ => rfl) fun _ => rfl
  have hname : ((resolve names m).model.node id).name = ((Stage.registered names m).node id).name :=
    congrArg Prod.snd (hall.node id)
  rw [hlater.node, hname, typing_namedType_congr (hall.of_view Prod.fst)]
  exact hpass

end passes

/-! ### Documents -/

/-- What comes in the way of a type name is a declaration of this name with a type name of its own. -/
theorem Captures.declared {names : NameTable} {r : Model} {key : String} {id : NodeId} (h : Captures r key id)
    (hresolved : r.IsResolved names) (hqualified : r.builtins.nsPrefix ≠ "") (hlocal : localPart key = key) :
    id ∈ r.declarations ∧ (r.node id).name = key ∧ (r.node id).rawType ≠ "" := by
  obtain ⟨hmem, hname⟩ := hresolved.declared_of_element? h.registered
  refine ⟨hmem, hname, fun hraw => h.diverted ?_⟩
  -- Without a type name it would go by its own name, which has no prefix and so leads back to it.
  have hbare : (PrefixedName.ofString key).nsPrefix ≠ r.builtins.nsPrefix := by
    rw [← hlocal, ofString_localPart]
    exact Ne.symm hqualified
  rw [Node.declaredType, hraw, hname, Builtins.classify_eq]
  simp [hbare, hlocal]

/-- **What the name of a simple type stands for.** An element with such a type name gets the type that the simple type comes
down to, if no element of this name has another type. If there is one, its type counts in place of the simple type. -/
theorem Model.typing_of_simpleType {prefixOverride : Option String} {before after : List Event} {name type key : String}
    {attributes : Attributes} {m : Model} (names : NameTable)
    (hbuilt : ofEvents prefixOverride (before ++ .startTag name attributes :: after) = .ok m)
    (hqualified : m.builtins.nsPrefix ≠ "") (helement : m.builtins.tag name = .element)
    (htype : attributes.get? "type" = some type) (hkey : m.builtins.classify type = .named key) (hnamed : key ≠ "")
    (hsimple : (m.simpleType? key).isSome = true) :
    ∃ b, (Builder.start prefixOverride).feedAll before = .ok b ∧
      let r := (resolve names m).model
      let n := r.node b.model.nextId
      r.Reaches root b.model.nextId →
        ((∀ x, ¬ Captures r key x) → n.typing = (chaseSimple m n.name key).1.typing) ∧
        ∀ x, Captures r key x →
          x ∈ r.declarations ∧ (r.node x).name = key ∧ (r.node x).rawType ≠ "" ∧
            n.typing = (chaseElements r n.name key).1.typing ∧
            ∀ p, r.builtins.classify (r.node x).declaredType = .primitive p → n.typing = (some (.primitive p), false) := by
  obtain ⟨b, hbefore, hbuiltins, hheld, hkind, hraw⟩ := exists_typedElement hbuilt helement htype
  refine ⟨b, hbefore, fun hreaches => ?_⟩
  have hstored : m.builtins.classify (m.node b.model.nextId).rawType = .named key := by
    rw [hraw, hbuiltins, b.classify_typeName, if_neg (hbuiltins ▸ hqualified), ← hbuiltins, hkey]
  -- An empty name would count as none, and the element would go by its own name.
  have hpresent : (m.node b.model.nextId).rawType ≠ "" := by
    intro hnone
    rw [hnone] at hstored
    exact hnamed (key_of_classify hstored)
  have hdeclared : (m.node b.model.nextId).declaredType = (m.node b.model.nextId).rawType := by
    simp [Node.declaredType, hpresent]
  have hresult := typing_resolve names hreaches hheld hkind hpresent (hdeclared ▸ hstored) hsimple
  have hkept : Keeps Node.written Symbols.simpleTypes m (resolve names m).model := keeps_written names m
  refine ⟨fun hfree => ?_, fun x hx => ?_⟩
  · rw [hresult, typing_namedType_of_free _ hfree (hkept.simpleType?_eq ▸ hsimple),
      chaseSimple_congr hkept.simpleType?_eq hkept.builtins]
  · have hlocal : localPart key = key := by rw [key_of_classify hkey, Builder.localPart_localPart]
    obtain ⟨hmem, hname, hown⟩ := hx.declared (IsBuilt.isResolved ⟨_, _, hbuilt⟩ names)
      (hkept.builtins ▸ hqualified) hlocal
    obtain ⟨hcaptured, hprimitive⟩ := typing_namedType_of_captor _ hx
    exact ⟨hmem, hname, hown, hresult.trans hcaptured, fun p hp => hresult.trans (hprimitive p hp)⟩

/-! ### A size, and an element of this name -/

/-- A type of sizes, an element of the string type, and an order with an element of sizes. Its start tag is left out. -/
def sizedOrder (name : String) : Surroundings where
  before :=
    .startTag "xs:schema" ⟨[("xmlns:xs", schemaNamespace)]⟩ ::
      enclosed "xs:simpleType" [("name", "Size")] (enclosed "xs:restriction" [("base", "xs:int")] []) ++
      enclosed "xs:element" [("name", name), ("type", "xs:string")] [] ++
    [.startTag "xs:complexType" ⟨[("name", "Order")]⟩, .startTag "xs:sequence" ⟨[]⟩]
  after := [.endTag "xs:element", .endTag "xs:sequence", .endTag "xs:complexType", .endTag "xs:schema"]

def sizeElement : Attributes := ⟨[("name", "size"), ("type", "Size")]⟩

/-- The schema when it is read. -/
def writtenSizes (name : String) : Model where
  nodes := #[taggedNode .schema "schema" false [⟨1⟩, ⟨2⟩],
    { taggedNode .element name true [] with rawType := "xs:string", isExplicitlyDefined := false },
    taggedNode .complexType "Order" true [⟨3⟩],
    { taggedNode .element "size" false [] with rawType := "Size", isExplicitlyDefined := false }]
  symbols :=
    { simpleTypes := .ofList [("Size", { name := "Size", base := some "xs:int" })], topLevelSimpleTypes := ["Size"] }
  builtins := ⟨"xs"⟩

/-- The same schema when it is resolved, given what becomes of the sizes. -/
def resolvedSizes (name : String) (size : Node → Node) : Model where
  nodes := #[taggedNode .schema "schema" false [⟨1⟩, ⟨2⟩],
    { taggedNode .element name true [] with
      rawType := "xs:string"
      resolvedType := some (.primitive .string)
      isExplicitlyDefined := false },
    { taggedNode .complexType "Order" true [⟨3⟩] with resolvedType := some (.named "Order"), isComplex := true },
    size { taggedNode .element "size" false [] with rawType := "Size", isExplicitlyDefined := false }]
  symbols := { (writtenSizes name).symbols with elements := .ofList [(name, ⟨1⟩), ("Order", ⟨2⟩)] }
  builtins := ⟨"xs"⟩

/-- The sizes where they are of their simple type, and where they are of the type of the element. -/
def wholeSize (n : Node) : Node := { n with resolvedType := some (.primitive .int), simpleTypeName := some "Size" }

def textSize (n : Node) : Node := { n with resolvedType := some (.primitive .string) }

set_option maxRecDepth 20000 in
theorem resolve_sizes_length :
    Model.ofEvents none ((sizedOrder "Length").before ++
      .startTag "xs:element" sizeElement :: (sizedOrder "Length").after) = .ok (writtenSizes "Length") ∧
      (resolve ∅ (writtenSizes "Length")).model = resolvedSizes "Length" wholeSize := by
  let ids : List NodeId := [⟨1⟩, ⟨2⟩, ⟨3⟩]
  let registered : Model :=
    { writtenSizes "Length" with symbols := (resolvedSizes "Length" wholeSize).symbols }
  have hids : (writtenSizes "Length").declarations = ids := by cbv
  have hregistered : (Resolved.forEach (writtenSizes "Length") ids (registerNode ∅)).model = registered := by
    decide +kernel
  have htyped : (Resolved.forEach registered ids resolveDeclaration).model = resolvedSizes "Length" wholeSize := by
    decide +kernel
  exact ⟨Model.ofEvents_of_toOption_eq (by decide +kernel),
    Model.resolve_of_passes (by cbv) hids hregistered htyped (by cbv) (by cbv)⟩

/-- No element is called like the type of sizes, so the sizes are whole numbers. -/
theorem typing_of_simpleType_length : ∃ b, (Builder.start none).feedAll (sizedOrder "Length").before = .ok b ∧
    Model.ofEvents none ((sizedOrder "Length").before ++
      .startTag "xs:element" sizeElement :: (sizedOrder "Length").after) = .ok (writtenSizes "Length") ∧
    (resolve ∅ (writtenSizes "Length")).model.Reaches Model.root b.model.nextId ∧
    ((resolve ∅ (writtenSizes "Length")).model.node b.model.nextId).typing = (some (.primitive .int), false) := by
  obtain ⟨hread, hresolved⟩ := resolve_sizes_length
  obtain ⟨b, hbefore, hnext⟩ : ∃ b, (Builder.start none).feedAll (sizedOrder "Length").before = .ok b ∧
      b.model.nextId = ⟨3⟩ := ⟨_, rfl, by decide +kernel⟩
  have hreaches : (resolve ∅ (writtenSizes "Length")).model.Reaches Model.root b.model.nextId := by
    rw [hresolved, hnext]
    exact Relation.ReflTransGen.tail (b := ⟨2⟩) (.single (by decide)) (by decide)
  have hfree : ∀ x, ¬ Captures (resolvedSizes "Length" wholeSize) "Size" x := by
    rintro x ⟨hregistered, -⟩
    have hnone : (resolvedSizes "Length" wholeSize).element? "Size" = none := by decide +kernel
    cases hnone.symm.trans hregistered
  obtain ⟨b', hbefore', htyping⟩ := Model.typing_of_simpleType ∅ hread (by decide +kernel) (by decide +kernel) rfl
    (show _ = TypeRef.named "Size" by decide +kernel) (by decide +kernel) (by decide +kernel)
  obtain rfl : b' = b := Except.ok.inj (hbefore'.symm.trans hbefore)
  refine ⟨b', hbefore, hread, hreaches, ((htyping hreaches).1 (hresolved ▸ hfree)).trans ?_⟩
  rw [hresolved, hnext]
  decide +kernel

set_option maxRecDepth 20000 in
/-- An element is called like it, so the sizes have become texts like this element. -/
theorem typing_of_captured_size :
    Model.ofEvents none ((sizedOrder "Size").before ++
      .startTag "xs:element" sizeElement :: (sizedOrder "Size").after) = .ok (writtenSizes "Size") ∧
      (resolve ∅ (writtenSizes "Size")).model = resolvedSizes "Size" textSize ∧
      (resolvedSizes "Size" textSize).Reaches Model.root ⟨3⟩ ∧
      (resolvedSizes "Size" textSize).builtins.classify "Size" = .named "Size" ∧
      Captures (resolvedSizes "Size" textSize) "Size" ⟨1⟩ ∧
      (chaseSimple (writtenSizes "Size") "size" "Size").1.typing = (some (.primitive .int), false) ∧
      ((resolvedSizes "Size" textSize).node ⟨3⟩).typing = (some (.primitive .string), false) := by
  let ids : List NodeId := [⟨1⟩, ⟨2⟩, ⟨3⟩]
  let registered : Model := { writtenSizes "Size" with symbols := (resolvedSizes "Size" textSize).symbols }
  have hids : (writtenSizes "Size").declarations = ids := by cbv
  have hregistered : (Resolved.forEach (writtenSizes "Size") ids (registerNode ∅)).model = registered := by
    decide +kernel
  have htyped : (Resolved.forEach registered ids resolveDeclaration).model = resolvedSizes "Size" textSize := by
    decide +kernel
  exact ⟨Model.ofEvents_of_toOption_eq (by decide +kernel),
    Model.resolve_of_passes (by cbv) hids hregistered htyped (by cbv) (by cbv),
    .tail (b := ⟨2⟩) (.single (by decide)) (by decide), by decide +kernel, ⟨by decide +kernel, by decide +kernel⟩,
    by decide +kernel, by decide +kernel⟩

end SchemaBinding
