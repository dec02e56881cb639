import SchemaBinding.Proofs.Builder.Forest
import SchemaBinding.Proofs.Builder.SchemaPrefix
import SchemaBinding.Proofs.Builder.Started
import SchemaBinding.Proofs.Table

/-!
# `SchemaBinding.Proofs.Builder.TypeNames`: the stored names of types

An element stores the name of its type without a prefix, unless this is the prefix of the schema namespace
(`Builder.typeName`). The resolver classifies the stored name, so that should be the same as classifying the written one.

It is if the schema namespace has a prefix. If it has none, a name of another namespace may have the local part of a
built-in type (`LooksBuiltin`), and then the element is of the built-in type. An attribute stores its type as written, and
so it is always of the written type. `Model.classify_rawType_eq_iff` says this of the documents that are read.
-/

set_option autoImplicit false

namespace SchemaBinding

/-! ### What type names refer to -/

/-- What a local name of the schema namespace refers to. -/
def TypeRef.ofLocalName (name : String) : TypeRef :=
  match Primitive.ofLocalName? name with
  | some p => .primitive p
  | none => if name = "anyType" then .anyType else .named name

/-- The name has a prefix, and without it it would be that of a built-in type. -/
def LooksBuiltin (raw : String) : Prop :=
  (PrefixedName.ofString raw).nsPrefix ≠ "" ∧ TypeRef.ofLocalName (localPart raw) ≠ .named (localPart raw)

theorem Builtins.classify_eq (builtins : Builtins) (raw : String) : builtins.classify raw =
    if (PrefixedName.ofString raw).nsPrefix = builtins.nsPrefix then .ofLocalName (localPart raw)
    else .named (localPart raw) := by
  unfold classify primitive? isAnyType localName?
  by_cases hbound : (PrefixedName.ofString raw).nsPrefix = builtins.nsPrefix
  · simp only [if_pos hbound, Option.bind_some, decide_eq_true_eq, Option.some.injEq]
    rfl
  · simp [if_neg hbound]

namespace Builder

variable {b b' : Builder} {closing : Closing} {tag : String} {attributes : Attributes}

/-- Without a prefix for the schema namespace, a stored name is that of a built-in type whenever it looks like one. -/
theorem classify_typeName (b : Builder) (raw : String) : b.builtins.classify (b.typeName raw) =
    if b.builtins.nsPrefix = "" then .ofLocalName (localPart raw) else b.builtins.classify raw := by
  have hlocal : b.builtins.classify (localPart raw) =
      if "" = b.builtins.nsPrefix then .ofLocalName (localPart raw) else .named (localPart raw) := by
    rw [Builtins.classify_eq, ofString_localPart, localPart_localPart]
  unfold typeName
  dsimp only
  split
  · -- The prefix is kept only if there is one.
    rename_i hkept
    have hqualified : b.builtins.nsPrefix ≠ "" := by
      intro hnone
      simp [hnone] at hkept
    rw [if_neg hqualified]
  · rename_i hstripped
    change b.builtins.classify (localPart raw) = _
    rw [hlocal]
    by_cases hnone : b.builtins.nsPrefix = ""
    · rw [if_pos hnone, if_pos hnone.symm]
    · have hforeign : (PrefixedName.ofString raw).nsPrefix ≠ b.builtins.nsPrefix := by
        simpa [hnone] using hstripped
      rw [if_neg hnone, if_neg (Ne.symm hnone), Builtins.classify_eq, if_neg hforeign]

theorem classify_typeName_eq_iff (b : Builder) (raw : String) :
    b.builtins.classify (b.typeName raw) = b.builtins.classify raw ↔
      ¬ (b.builtins.nsPrefix = "" ∧ LooksBuiltin raw) := by
  rw [classify_typeName]
  by_cases hnone : b.builtins.nsPrefix = ""
  · rw [if_pos hnone, Builtins.classify_eq, hnone, LooksBuiltin]
    split
    · rename_i hbare
      simp [hbare]
    · rename_i hforeign
      simp [hforeign]
  · simp [hnone]

theorem rawType_declaredNode (b : Builder) (kind : NodeKind) (bounds : Nat × MaxOccurs) {type : String}
    (htype : attributes.get? "type" = some type) :
    (withOccurs bounds (b.declaredNode kind attributes)).rawType = b.typeName type := by
  unfold declaredNode withMixed
  rw [htype]
  cases attributes.get? "mixed" <;> rfl

/-! ### The types of attributes -/

/-- The attribute that is being read. -/
def openAttribute? (b : Builder) : Option AttributeDef :=
  b.slot.bind fun slot =>
    match b.frames.reverse[slot.frame]? with
    | some (.node id) => (b.model.node id).attributes.get? slot.key
    | some (.attributeGroup g) => g.attributes.get? slot.key
    | _ => none

theorem openAttribute?_of_startAttribute (hheld : ∀ id, .node id ∈ b.frames → b.model.Holds id)
    (h : b.startAttribute tag attributes = .ok (b', closing)) :
    b'.openAttribute? = some (b.declaredAttribute attributes) := by
  unfold startAttribute at h
  dsimp only at h
  split at h
  · rename_i id rest hframes
    cases h
    have hid : b.model.Holds id := hheld id (hframes ▸ List.mem_cons_self ..)
    simp [openAttribute?, modifyNode, modifyModel, hframes, Model.node_modifyNode, hid, Table.get?_insert]
  · rename_i g rest hframes
    cases h
    simp [openAttribute?, setTopFrame, hframes, Table.get?_insert]
  · cases h

/-- Right after its start tag an attribute is of the type that the tag names. -/
theorem exists_openAttribute {prefixOverride : Option String} {before after : List Event} {name type : String}
    {last : Builder} (h : (start prefixOverride).feedAll (before ++ .startTag name attributes :: after) = .ok last)
    (hattribute : last.builtins.tag name = .attribute) (htype : attributes.get? "type" = some type) :
    ∃ b d, (start prefixOverride).feedAll (before ++ [.startTag name attributes]) = .ok b ∧
      b.openAttribute? = some d ∧ d.declaredType = type := by
  obtain ⟨b, opened, closing, hbefore, hstarted⟩ := exists_started h (by simp [hattribute]) (by simp [hattribute])
  have hheld : ∀ id, .node id ∈ b.frames → b.model.Holds id := fun id hmem =>
    ((reads_of_feedAll hbefore).forest.free id (List.mem_map_of_mem hmem)).1
  have hstart : b.startAttribute name attributes = .ok (opened, closing) := by
    simpa [startConstruct, ← hstarted.builtins, hattribute] using hstarted.start
  have hopen : opened.openAttribute? = some (b.declaredAttribute attributes) :=
    openAttribute?_of_startAttribute hheld hstart
  refine ⟨opened.withOpenTags (⟨name, closing⟩ :: b.openTags), b.declaredAttribute attributes, ?_, hopen, ?_⟩
  · rw [feedAll_append_of_ok hbefore, feedAll_cons_of_ok hstarted.feed]
    rfl
  · simp [declaredAttribute, AttributeDef.declared, htype]

end Builder

/-! ### The types of elements -/

section

variable {prefixOverride : Option String} {before after : List Event} {name type : String} {attributes : Attributes}
  {m : Model}

/-- An element of a document has the type of its start tag, under the name that the builder stores. -/
theorem Model.exists_typedElement (hbuilt : ofEvents prefixOverride (before ++ .startTag name attributes :: after) = .ok m)
    (helement : m.builtins.tag name = .element) (htype : attributes.get? "type" = some type) :
    ∃ b, (Builder.start prefixOverride).feedAll before = .ok b ∧ m.builtins = b.builtins ∧ m.Holds b.model.nextId ∧
      (m.node b.model.nextId).kind = .element ∧ (m.node b.model.nextId).rawType = b.typeName type := by
  obtain ⟨last, hfeed, hfinish⟩ := exists_of_ofEvents hbuilt
  obtain ⟨rfl, -, -⟩ := Builder.eq_of_finish hfinish
  obtain ⟨b, opened, closing, hbefore, hstarted⟩ :=
    Builder.exists_started hfeed (by simp [Builder.builtins, helement]) (by simp [Builder.builtins, helement])
  have hbuiltins : last.model.builtins = b.builtins := hstarted.builtins
  have hstart : b.startNode .element name attributes = .ok (opened, closing) := by
    simpa [Builder.startConstruct, ← hbuiltins, helement] using hstarted.start
  obtain ⟨bounds, -, rfl, rfl⟩ := Builder.exists_of_startNode hstart
  obtain ⟨hkind, hchildren, -⟩ := Builder.declaredNode_fields b .element bounds attributes
  obtain ⟨hheld, hbare⟩ := hstarted.bare_pushNode (b.outline_noteSubstitution attributes) hchildren
  exact ⟨b, hbefore, hbuiltins, hheld, (congrArg Node.kind hbare).trans hkind,
    (congrArg Node.rawType hbare).trans (b.rawType_declaredNode .element bounds htype)⟩

/-- **What the stored type of an element refers to.** It is what the written type name refers to, unless the schema
namespace has no prefix and the written name has another one in front of a built-in name. An attribute of the same type
refers to what is written. -/
theorem Model.classify_rawType_eq_iff
    (hbuilt : ofEvents prefixOverride (before ++ .startTag name attributes :: after) = .ok m)
    (helement : m.builtins.tag name = .element) (htype : attributes.get? "type" = some type) :
    ∃ b, (Builder.start prefixOverride).feedAll before = .ok b ∧ m.Holds b.model.nextId ∧
      (m.node b.model.nextId).kind = .element ∧
      (m.builtins.classify (m.node b.model.nextId).rawType = m.builtins.classify type ↔
        ¬ (m.builtins.nsPrefix = "" ∧ LooksBuiltin type)) ∧
      (m.builtins.nsPrefix = "" → m.builtins.classify (m.node b.model.nextId).rawType = .ofLocalName (localPart type)) ∧
      ∀ before' name' attributes' after', before ++ .startTag name attributes :: after =
          before' ++ .startTag name' attributes' :: after' →
        m.builtins.tag name' = .attribute → attributes'.get? "type" = some type →
        ∃ b' d, (Builder.start prefixOverride).feedAll (before' ++ [.startTag name' attributes']) = .ok b' ∧
          b'.openAttribute? = some d ∧ d.declaredType = type := by
  obtain ⟨b, hbefore, hbuiltins, hheld, hkind, hraw⟩ := exists_typedElement hbuilt helement htype
  refine ⟨b, hbefore, hheld, hkind, ?_, fun hnone => ?_, ?_⟩
  · rw [hraw, hbuiltins]
    exact b.classify_typeName_eq_iff type
  · rw [hraw, hbuiltins, b.classify_typeName, if_pos (hbuiltins ▸ hnone)]
  · intro before' name' attributes' after' heq hattribute htype'
    obtain ⟨last, hfeed, hfinish⟩ := exists_of_ofEvents hbuilt
    obtain ⟨rfl, -, -⟩ := Builder.eq_of_finish hfinish
    rw [heq] at hfeed
    exact Builder.exists_openAttribute hfeed hattribute htype'

end

/-- Tags in front of an element and behind it. -/
structure Surroundings where
  before : List Event
  after : List Event

/-- An order with a date of its own namespace, in an element and in an attribute. The start tag of the element is left out. -/
def datedOrder (binding mark : String) : Surroundings where
  before :=
    .startTag (mark ++ "schema") ⟨[(binding, schemaNamespace), ("xmlns:tns", "urn:order")]⟩ ::
      enclosed (mark ++ "simpleType") [("name", "date")]
        (enclosed (mark ++ "restriction") [("base", mark ++ "int")] []) ++
    [.startTag (mark ++ "complexType") ⟨[("name", "Order")]⟩, .startTag (mark ++ "sequence") ⟨[]⟩]
  after :=
    [.endTag (mark ++ "element"), .endTag (mark ++ "sequence")] ++
    enclosed (mark ++ "attribute") [("name", "paid"), ("type", "tns:date")] [] ++
    [.endTag (mark ++ "complexType"), .endTag (mark ++ "schema")]

def placedElement : Attributes := ⟨[("name", "placed"), ("type", "tns:date")]⟩

/-- With a prefix for the schema namespace the element is of the written type, like the attribute. -/
theorem classify_rawType_prefixedOrder : ∃ m b, (Builder.start none).feedAll (datedOrder "xmlns:xs" "xs:").before = .ok b ∧
    Model.ofEvents none ((datedOrder "xmlns:xs" "xs:").before ++
      .startTag "xs:element" placedElement :: (datedOrder "xmlns:xs" "xs:").after) = .ok m ∧
    m.builtins.nsPrefix = "xs" ∧ m.builtins.tag "xs:element" = .element ∧
    m.builtins.classify (m.node b.model.nextId).rawType = .named "date" := by
  obtain ⟨m, hbuilt, hqualified, htag, hwritten⟩ : ∃ m, Model.ofEvents none ((datedOrder "xmlns:xs" "xs:").before ++
      .startTag "xs:element" placedElement :: (datedOrder "xmlns:xs" "xs:").after) = .ok m ∧
      m.builtins.nsPrefix = "xs" ∧ m.builtins.tag "xs:element" = .element ∧
      m.builtins.classify "tns:date" = .named "date" :=
    ⟨_, rfl, by decide +kernel, by decide +kernel, by decide +kernel⟩
  obtain ⟨b, hbefore, -, -, hiff, -, -⟩ := Model.classify_rawType_eq_iff hbuilt htag rfl
  refine ⟨m, b, hbefore, hbuilt, hqualified, htag, (hiff.mpr ?_).trans hwritten⟩
  rintro ⟨hnone, -⟩
  simp [hqualified] at hnone

/-- Without one the element is of the built-in type `date`, and only the attribute is of the written one. -/
theorem classify_rawType_bareOrder : ∃ m, Model.ofEvents none ((datedOrder "xmlns" "").before ++
      .startTag "element" placedElement :: (datedOrder "xmlns" "").after) = .ok m ∧
    m.builtins.nsPrefix = "" ∧ (m.node ⟨2⟩).name = "placed" ∧ (m.node ⟨2⟩).rawType = "date" ∧
    m.builtins.classify (m.node ⟨2⟩).rawType = .primitive .date ∧ m.builtins.classify "tns:date" = .named "date" ∧
    ((m.node ⟨1⟩).attributes.get? "paid").map (fun d => m.builtins.classify d.declaredType) = some (.named "date") :=
  ⟨_, rfl, by decide +kernel, by decide +kernel, by decide +kernel, by decide +kernel, by decide +kernel, by decide +kernel⟩

end SchemaBinding
