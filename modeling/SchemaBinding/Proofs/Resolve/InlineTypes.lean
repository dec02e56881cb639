import Mathlib.Data.List.Permutation
import SchemaBinding.Proofs.Builder.InlineTypes
import SchemaBinding.Proofs.Resolve.Once

/-!
# `SchemaBinding.Proofs.Resolve.InlineTypes`: elements with a simple type inside of them

An element that names no type and has a simple type inside of it refers to this simple type by its own name. When the
element is resolved, the name is looked up in the table of all simple types (`resolve_of_inline`), where the last one that
was finished under the name counts. So the element has the built-in type and the facets that its own simple type says, unless
another one has taken the place (`InlineType.hasValues`).
-/

set_option autoImplicit false

namespace SchemaBinding

/-- The node has the built-in type and the facets that a simple type says, but for facets of its own. -/
def Node.HasValues (builtins : Builtins) (v : ValueSpace) (own : Facets) (n : Node) : Prop :=
  ∀ p, v.base.map builtins.classify = some (.primitive p) →
    n.resolvedType = some (.primitive p) ∧ n.facets = own.orElse (if v.facets.isRestricted then some v.facets else none)

section inline

variable {m : Model} {id : NodeId} {key : String} {d : SimpleTypeDef} {p : Primitive}

/-- A simple type with a built-in base leads to this base at once. -/
theorem chaseSimple_of_primitive (owner : String) (hkey : m.simpleType? key = some d)
    (hbase : d.base.map m.builtins.classify = some (.primitive p)) :
    (chaseSimple m owner key).1.primitive = some p ∧
      (chaseSimple m owner key).1.facets = if d.facets.isRestricted then some d.facets else none := by
  unfold chaseSimple chaseSimpleFrom
  rw [hkey]
  dsimp only
  rw [hbase]
  simp [SimpleChain.extend]

/-- A node with a simple type inside of it is resolved by what the table holds under its name. -/
theorem hasValues_resolveTypes (hid : id ∈ m.declarations) (hkind : (m.node id).kind = .element)
    (hraw : (m.node id).rawType = "") (hname : (m.node id).simpleTypeName = some key) (hkey : m.simpleType? key = some d) :
    ((resolveTypes m).model.node id).HasValues m.builtins d.valueSpace (m.node id).facets := by
  intro p hbase
  obtain ⟨moment, collapse, hkeep, hview⟩ :=
    exists_resolution_of_declaration (f := fun n => (n.resolvedType, n.facets)) (fun _ _ => rfl) hid
  -- Simple types are looked up as in the model that the pass starts from.
  have hsimple : moment.simpleType? = m.simpleType? := (hkeep.of_known Symbols.simpleTypes).simpleType?_eq
  have hkey' : moment.simpleType? key = some d := by rw [hsimple, hkey]
  obtain ⟨hprimitive, hfacets⟩ := chaseSimple_of_primitive (m.node id).name hkey' (hkeep.builtins ▸ hbase)
  have hinline : (m.node id).inlineSimpleType? moment = some key := by
    simp [Node.inlineSimpleType?, hraw, hname, hkey']
  have hresolve : (resolveNode moment (m.node id)).1 = .ofChain key (chaseSimple moment (m.node id).name key).1 := by
    simp [resolveNode, Node.isWildcard, hkind, hinline]
  rw [hresolve] at hview
  obtain ⟨htype, hall⟩ := Prod.mk.inj hview
  refine ⟨htype.trans ?_, hall.trans ?_⟩
  · simp [applyResolution, Resolution.ofChain, SimpleChain.primitiveOrString, hprimitive]
  · show (m.node id).facets.orElse (chaseSimple moment (m.node id).name key).1.facets = _
    rw [hfacets]
    rfl

/-- The same when all passes are done. -/
theorem resolve_of_inline (names : NameTable) (hreaches : (resolve names m).model.Reaches Model.root id)
    (hheld : m.Holds id) (hkind : (m.node id).kind = .element) (hraw : (m.node id).rawType = "")
    (hname : (m.node id).simpleTypeName = some key) (hkey : m.simpleType? key = some d) :
    ((resolve names m).model.node id).HasValues m.builtins d.valueSpace (m.node id).facets := by
  have hbefore : Model.Keeps (fun n => (n.kind, n.rawType, n.simpleTypeName, n.facets)) Symbols.simpleTypes m
      (Stage.registered names m) :=
    keeps_untyped names m (fun _ _ => rfl) (fun _ _ => rfl) (fun _ => rfl) fun _ _ _ => rfl
  obtain ⟨hkind', hraw', hname', hfacets⟩ : ((Stage.registered names m).node id).kind = (m.node id).kind ∧
      ((Stage.registered names m).node id).rawType = (m.node id).rawType ∧
      ((Stage.registered names m).node id).simpleTypeName = (m.node id).simpleTypeName ∧
      ((Stage.registered names m).node id).facets = (m.node id).facets := by
    simpa using hbefore.node id
  have hmem : id ∈ (Stage.registered names m).declarations := by
    rw [declarations_registered]
    exact mem_declarations_resolve hheld (.inl hkind) hreaches
  have hkey' : (Stage.registered names m).simpleType? key = some d := by rw [hbefore.simpleType?_eq, hkey]
  have htyped := hasValues_resolveTypes hmem (hkind'.trans hkind) (hraw'.trans hraw) (hname'.trans hname) hkey'
  have hlater : Model.Keeps (fun n => (n.resolvedType, n.facets)) (fun _ => ()) (Stage.typed names m)
      (resolve names m).model := keeps_typed names m (fun _ _ => rfl) (fun _ _ _ => rfl) fun _ => rfl
  obtain ⟨htype, hall⟩ := Prod.mk.inj (hlater.node id)
  intro p hbase
  rw [htype, hall, ← hfacets]
  exact htyped p (by rw [hbefore.builtins]; exact hbase)

end inline

namespace InlineType

/-- An element with a simple type inside of it has the built-in type and the facets that the last simple type under its name
says. That is its own simple type, unless another one is finished later under the name. -/
theorem hasValues {prefixOverride : Option String} {m : Model} {b : Builder} (d : InlineType m.builtins)
    (hread : Model.ofEvents prefixOverride d.events = .ok m)
    (hbefore : (Builder.start prefixOverride).feedAll d.before = .ok b) (hdepth : b.attributeDepth = 0)
    (names : NameTable) (hreaches : (resolve names m).model.Reaches Model.root b.model.nextId) :
    ∃ earlier own later, (Builder.start prefixOverride).finished d.events = earlier ++ own :: later ∧
      own.name = d.key ∧ own.valueSpace = ValueSpace.read m.builtins d.content ∧
      ∃ last, (own :: later).reverse.find? (·.name == d.key) = some last ∧
        ((∀ other ∈ later, other.name ≠ d.key) → last = own) ∧
        ((resolve names m).model.node b.model.nextId).HasValues m.builtins last.valueSpace
          (m.node b.model.nextId).facets := by
  obtain ⟨⟨earlier, own, later, hfinished, hname, hvalues⟩, hheld, hkind, hraw, hinline⟩ :=
    d.exists_own_of_ofEvents hread hbefore hdepth
  obtain ⟨last, hlast⟩ : ∃ last, (own :: later).reverse.find? (·.name == d.key) = some last := by
    refine Option.isSome_iff_exists.mp (List.find?_isSome.mpr ⟨own, by simp, ?_⟩)
    exact beq_iff_eq.mpr hname
  -- What was finished earlier is not found, as its own simple type comes later.
  have hkey : m.simpleType? d.key = some last := by
    have htable : m.symbols.simpleTypes.get? d.key = some last := by
      rw [Model.get?_simpleTypes_of_ofEvents hread, hfinished, List.reverse_append, List.find?_append, hlast]
      rfl
    unfold Model.simpleType? Symbols.simpleType?
    rw [htable]
  refine ⟨earlier, own, later, hfinished, hname, hvalues, last, hlast, fun hnone => ?_, ?_⟩
  · rw [List.reverse_cons, List.find?_append, List.find?_eq_none.mpr (by simpa using hnone), Option.none_or,
      List.find?_singleton, if_pos (beq_iff_eq.mpr hname)] at hlast
    exact (Option.some.inj hlast).symm
  · exact resolve_of_inline names hreaches hheld hkind hraw hinline hkey

end InlineType

/-! ### Two elements with simple types -/

/-- An element `code` of whole numbers in one type, and in the next type another element of words. -/
def codeType (second : String) : InlineType ⟨""⟩ where
  before := [.startTag "schema" ⟨[]⟩, .startTag "complexType" ⟨[("name", "Order")]⟩]
  element := "element"
  attributes := ⟨[("name", "code")]⟩
  front := []
  type := "simpleType"
  typeAttributes := ⟨[]⟩
  content := enclosed "restriction" [("base", "int")] (enclosed "minInclusive" [("value", "1")] [])
  back := []
  after :=
    let words := enclosed "restriction" [("base", "string")] (enclosed "enumeration" [("value", "x")] [])
    .endTag "complexType" :: (enclosed "complexType" [("name", "Note")]
      (enclosed "element" [("name", second)] (enclosed "simpleType" [] words)) ++ [.endTag "schema"])
  isElement := rfl
  untyped := ⟨rfl, rfl⟩
  isType := rfl
  unnamed := rfl
  front_balanced := .nil
  content_balanced := .tree (.tree .nil .nil) .nil
  back_balanced := .nil
  single := fun _ _ h => absurd h List.not_mem_nil

def numberFacets : Facets := { minimum := some "1" }

def wordFacets : Facets := { enumeration := ["x"] }

/-- An element whose simple type has the name of the element. -/
def inlineElement (name : String) : Node :=
  { taggedNode .element name false [] with simpleTypeName := some name }

/-- An element of words. -/
def wordElement (name : String) : Node :=
  { inlineElement name with resolvedType := some (.primitive .string), facets := wordFacets }

/-- The schema of these elements, with its simple types and the elements as they are. -/
def codeSchema (types : Table SimpleTypeDef) (elements : Table NodeId) (type : String → Node) (first second : Node) : Model where
  nodes := #[taggedNode .schema "schema" false [⟨1⟩, ⟨3⟩], { type "Order" with children := [⟨2⟩] }, first,
    { type "Note" with children := [⟨4⟩] }, second]
  symbols := { simpleTypes := types, elements := elements }
  builtins := ⟨""⟩

/-- The schema when it is read. -/
def writtenCodes (types : Table SimpleTypeDef) (second : String) : Model :=
  codeSchema types ∅ (fun name => taggedNode .complexType name true []) (inlineElement "code") (inlineElement second)

/-- The schema when it is resolved, given what becomes of the first element. -/
def resolvedCodes (types : Table SimpleTypeDef) (first : Node) (second : String) : Model :=
  codeSchema types (.ofList [("Order", ⟨1⟩), ("Note", ⟨3⟩)])
    (fun name =>
      { taggedNode .complexType name true [] with resolvedType := some (.named name), isComplex := true })
    first
    (wordElement second)

def numberType : SimpleTypeDef := { name := "code", base := some "int", facets := numberFacets }

def wordType (name : String) : SimpleTypeDef := { name := name, base := some "string", facets := wordFacets }

/-- The simple types where the elements have different names. -/
def ownTypes : Table SimpleTypeDef := .ofList [("code", numberType), ("size", wordType "size")]

def numberElement : Node :=
  { inlineElement "code" with resolvedType := some (.primitive .int), facets := numberFacets }

set_option maxRecDepth 20000 in
theorem resolve_codes_size :
    Model.ofEvents none (codeType "size").events = .ok (writtenCodes ownTypes "size") ∧
      (resolve ∅ (writtenCodes ownTypes "size")).model = resolvedCodes ownTypes numberElement "size" := by
  have hread : (Model.ofEvents none (codeType "size").events).toOption = some (writtenCodes ownTypes "size") := by
    decide
  let ids : List NodeId := [⟨1⟩, ⟨2⟩, ⟨3⟩, ⟨4⟩]
  let registered : Model :=
    { writtenCodes ownTypes "size" with symbols := (resolvedCodes ownTypes numberElement "size").symbols }
  have hids : (writtenCodes ownTypes "size").declarations = ids := by cbv
  have hregistered : (Resolved.forEach (writtenCodes ownTypes "size") ids (registerNode ∅)).model = registered := by
    decide
  have htyped : (Resolved.forEach registered ids resolveDeclaration).model =
      resolvedCodes ownTypes numberElement "size" := by
    decide
  exact ⟨Model.ofEvents_of_toOption_eq hread,
    Model.resolve_of_passes (by cbv) hids hregistered htyped (by cbv) (by cbv)⟩

/-- The elements have different names, so the first one has what its own simple type says. -/
theorem hasValues_code :
    ∃ m b, Model.ofEvents none (codeType "size").events = .ok m ∧ m.builtins = ⟨""⟩ ∧
      (Builder.start none).feedAll (codeType "size").before = .ok b ∧ b.attributeDepth = 0 ∧
      (resolve ∅ m).model.Reaches Model.root b.model.nextId ∧
      ∃ earlier own later, (Builder.start none).finished (codeType "size").events = earlier ++ own :: later ∧
        own.name = "code" ∧ own.valueSpace = ⟨some "int", numberFacets⟩ ∧
        ∃ last, (own :: later).reverse.find? (·.name == "code") = some last ∧
          ((∀ other ∈ later, other.name ≠ "code") → last = own) ∧
          ((resolve ∅ m).model.node b.model.nextId).HasValues m.builtins last.valueSpace
            (m.node b.model.nextId).facets := by
  obtain ⟨hread, hresolved⟩ := resolve_codes_size
  obtain ⟨b, hbefore, hnext, hdepth⟩ : ∃ b, (Builder.start none).feedAll (codeType "size").before = .ok b ∧
      b.model.nextId = ⟨2⟩ ∧ b.attributeDepth = 0 := ⟨_, rfl, rfl, rfl⟩
  have hreaches : (resolve ∅ (writtenCodes ownTypes "size")).model.Reaches Model.root b.model.nextId := by
    rw [hresolved, hnext]
    exact Relation.ReflTransGen.tail (b := ⟨1⟩) (.single (by decide)) (by decide)
  have hkey : (codeType "size").key = "code" := by decide +kernel
  have hcontent : ValueSpace.read ⟨""⟩ (codeType "size").content = ⟨some "int", numberFacets⟩ := by decide +kernel
  refine ⟨_, b, hread, rfl, hbefore, hdepth, hreaches, ?_⟩
  rw [← hkey, ← hcontent]
  exact InlineType.hasValues (codeType "size") hread hbefore hdepth ∅ hreaches

/-- The simple types where the elements have one name: the words have come last. -/
def lastType : Table SimpleTypeDef := .ofList [("code", wordType "code")]

set_option maxRecDepth 20000 in
/-- The element of whole numbers has become one of words, as its simple type is no longer found. -/
theorem not_hasValues_code :
    Model.ofEvents none (codeType "code").events = .ok (writtenCodes lastType "code") ∧
      (resolve ∅ (writtenCodes lastType "code")).model = resolvedCodes lastType (wordElement "code") "code" ∧
      (resolvedCodes lastType (wordElement "code") "code").Reaches Model.root ⟨2⟩ ∧
      ValueSpace.read ⟨""⟩ (codeType "code").content = ⟨some "int", numberFacets⟩ ∧
      ((resolvedCodes lastType (wordElement "code") "code").node ⟨2⟩).resolvedType = some (.primitive .string) ∧
      ((resolvedCodes lastType (wordElement "code") "code").node ⟨2⟩).facets = some wordFacets := by
  have hread : (Model.ofEvents none (codeType "code").events).toOption = some (writtenCodes lastType "code") := by
    decide +kernel
  let ids : List NodeId := [⟨1⟩, ⟨2⟩, ⟨3⟩, ⟨4⟩]
  let registered : Model :=
    { writtenCodes lastType "code" with symbols := (resolvedCodes lastType (wordElement "code") "code").symbols }
  have hids : (writtenCodes lastType "code").declarations = ids := by cbv
  have hregistered : (Resolved.forEach (writtenCodes lastType "code") ids (registerNode ∅)).model = registered := by
    decide +kernel
  have htyped : (Resolved.forEach registered ids resolveDeclaration).model =
      resolvedCodes lastType (wordElement "code") "code" := by
    decide +kernel
  exact ⟨Model.ofEvents_of_toOption_eq hread,
    Model.resolve_of_passes (by cbv) hids hregistered htyped (by cbv) (by cbv),
    .tail (b := ⟨1⟩) (.single (by decide)) (by decide), by decide +kernel, rfl, rfl⟩

end SchemaBinding
