import Mathlib.Data.List.Nodup
import SchemaBinding.Proofs.Code.Containment
import SchemaBinding.Proofs.Generation.Accounts
import SchemaBinding.Proofs.Resolve.Content
import SchemaBinding.Proofs.Text.Casing

/-!
# `SchemaBinding.Proofs.Code.Identifiers`: names that become the same identifier

A language with structs allows each name once among the structs of a file, and once among the fields of a struct. The names
of a schema become identifiers in two steps. They are written in the letter case of the language, and reserved words are
escaped. The second step keeps different names apart (`Identifier.eq_of_ofName`), since no name in Pascal case or in snake
case looks like an escaped word. The first step does not.

A file names all structs and fields apart (`StructFile.NamesApart`) if and only if the letter case does: no two emitted
names are the same in Pascal case, and no two names of the content of a generated type are the same in snake case
(`Run.namesApart_iff`). The emitted names are different in any case. The names of the content need not be: an element may
stand in it twice, and be called like one of the fields that no declaration names.
-/

set_option autoImplicit false

namespace SchemaBinding

/-! ### Reserved words -/

namespace Identifier

variable {a b : String} {i : Identifier}

set_option maxRecDepth 10000 in
theorem not_isValid_raw (name : String) : isValid ("r#" ++ name).toList = false := by
  have hsign : isContinue '#' = false := by decide
  have hchars : ("r#" ++ name).toList = 'r' :: '#' :: name.toList := by simp
  simp [hchars, isValid, hsign]

theorem text_of_ofWord (h : ofWord a = .ok i) : i.text = a ∧ isValid a.toList = true := by
  unfold ofWord at h
  split at h
  · cases h
  · split at h
    · cases h
    · split at h
      · rename_i hvalid
        cases h
        exact ⟨rfl, hvalid⟩
      · cases h

/-- The three forms of an identifier. -/
theorem text_of_ofName (h : ofName a = .ok i) :
    (a ∈ plainReserved ∧ i.text = a ++ "_") ∨ i.text = "r#" ++ a ∨ i.text = a ∧ isValid a.toList = true := by
  unfold ofName at h
  split at h
  · rename_i hplain
    cases h
    exact Or.inl ⟨by simpa using hplain, rfl⟩
  · split at h
    · cases h
      exact Or.inr (Or.inl rfl)
    · exact Or.inr (Or.inr (text_of_ofWord h))

theorem plain_ne_raw (ha : a ∈ plainReserved) : a ++ "_" ≠ "r#" ++ b := by
  intro heq
  have hstart : ∀ name ∈ plainReserved, name.toList[1]? ≠ some '#' := by decide
  have hsecond := congrArg (fun s : String => s.toList[1]?) heq
  have hlong : ∀ name ∈ plainReserved, 1 < name.toList.length := by decide
  simp only [String.toList_append, List.getElem?_append_left (hlong a ha)] at hsecond
  exact hstart a ha (hsecond.trans rfl)

theorem getLast?_append_underscore (name : String) : (name ++ "_").toList.getLast? = some '_' := by
  simp [List.getLast?_append]

/-- Names that do not end with an underscore have different identifiers. -/
theorem eq_of_ofName (ha : a.toList.getLast? ≠ some '_') (hb : b.toList.getLast? ≠ some '_') (h : ofName a = .ok i)
    (h' : ofName b = .ok i) : a = b := by
  have hvalid : ∀ {name}, isValid name.toList = true → ∀ other, name ≠ "r#" ++ other := by
    rintro name hvalid other rfl
    rw [not_isValid_raw] at hvalid
    cases hvalid
  have hplain : ∀ {name : String}, name.toList.getLast? ≠ some '_' → ∀ other, name ≠ other ++ "_" := by
    rintro name hlast other rfl
    exact hlast (getLast?_append_underscore other)
  rcases text_of_ofName h with ⟨hmem, htext⟩ | htext | ⟨htext, hname⟩ <;>
    rcases text_of_ofName h' with ⟨hmem', htext'⟩ | htext' | ⟨htext', hname'⟩ <;>
    rw [htext] at htext'
  · exact String.append_left_inj _ |>.mp htext'
  · exact absurd htext' (plain_ne_raw hmem)
  · exact absurd htext'.symm (hplain hb a)
  · exact absurd htext'.symm (plain_ne_raw hmem')
  · exact String.append_right_inj _ |>.mp htext'
  · exact absurd htext'.symm (hvalid hname' a)
  · exact absurd htext' (hplain ha b)
  · exact absurd htext' (hvalid hname b)
  · exact htext'

/-- Lists of names and of their identifiers have repetitions at the same places, as far as the letter case shows the
names. -/
theorem nodup_iff_of_forall₂ {α β : Type} {written : α → String} {ident : β → Identifier} {names : List α} {others : List β}
    (hnames : List.Forall₂ (fun a b => ofName (written a) = .ok (ident b)) names others)
    (hlast : ∀ a, (written a).toList.getLast? ≠ some '_') :
    (others.map ident).Nodup ↔ (names.map written).Nodup := by
  let related (text : String) (i : Identifier) : Prop := text.toList.getLast? ≠ some '_' ∧ ofName text = .ok i
  have hunique : Relator.BiUnique related := by
    refine ⟨fun text text' i h h' => eq_of_ofName h.1 h'.1 h.2 h'.2, fun text i i' h h' => ?_⟩
    exact Except.ok.inj (h.2.symm.trans h'.2)
  have hrelated : List.Forall₂ related (names.map written) (others.map ident) := by
    rw [List.forall₂_map_left_iff, List.forall₂_map_right_iff]
    exact hnames.imp fun a b h => ⟨hlast a, h⟩
  exact (List.rel_nodup hunique hrelated).symm

end Identifier

/-! ### The fields of a struct -/

/-- The names whose identifiers a call gives to fields. -/
def Call.fieldNames : Call → List String
  | .beginType base _ => (base.map fun _ => "base").toList
  | .field f => [f.name]
  | _ => []

set_option maxRecDepth 10000 in
theorem ofField_base : Identifier.ofField "base" = .ok ⟨"base"⟩ := rfl

namespace Struct

variable {s s' : Struct} {names : List String}

/-- The fields of the struct have the identifiers of these names. -/
def HasNames (s : Struct) (names : List String) : Prop :=
  List.Forall₂ (fun name f => Identifier.ofField name = .ok f.name) names s.fields

theorem After.hasNames {c : Call} (h : s.After c s') (hinside : c.isBoundary = false) (hs : s.HasNames names) :
    s'.HasNames (names ++ c.fieldNames) := by
  unfold HasNames
  cases h with
  | field h =>
      obtain ⟨name, value, hname, -, hfields, -, -⟩ := Structs.fields_withField h
      rw [hfields]
      exact List.rel_append hs (.cons hname .nil)
  | other hc hfields =>
      rw [hfields]
      cases c with
      | field f => exact absurd rfl (hc f)
      | beginType => cases hinside
      | _ => simpa [Call.fieldNames, HasNames] using hs

theorem AfterAll.hasNames {calls : List Call} (h : s.AfterAll calls s') (hinside : ∀ c ∈ calls, c.isBoundary = false)
    (hs : s.HasNames names) : s'.HasNames (names ++ calls.flatMap Call.fieldNames) := by
  induction h generalizing names with
  | nil => simpa using hs
  | cons hfirst _ ih =>
      rw [List.flatMap_cons, ← List.append_assoc]
      exact ih (fun c hc => hinside c (List.mem_cons_of_mem _ hc)) (hfirst.hasNames (hinside _ List.mem_cons_self) hs)

/-- A struct has the fields that the calls of its block say, and before them the one for its base. -/
theorem MadeOf.hasNames {block : List Call} (h : MadeOf block s) : s.HasNames (block.flatMap Call.fieldNames) := by
  cases h with
  | @mk base name body s₀ _ hbody hopened h =>
      obtain ⟨parent, hparent, -, hfields⟩ := Structs.fields_opened hopened
      have hbase : s₀.HasNames (base.map fun _ => "base").toList := by
        rw [HasNames, hfields]
        cases base with
        | none =>
            cases hparent
            exact .nil
        | some base =>
            obtain ⟨ident, -, hparent⟩ := exists_of_map_eq_ok hparent
            cases hparent
            exact .cons ofField_base .nil
      have hall := h.hasNames hbody hbase
      simpa [Call.fieldNames] using hall

end Struct

/-- No two structs of the file have the same identifier, and no two fields of a struct. -/
def StructFile.NamesApart (file : StructFile) : Prop :=
  (file.structs.map (·.name)).Nodup ∧ ∀ s ∈ file.structs, (s.fields.map (·.name)).Nodup

/-! ### The content of a type -/

/-- The names of the fields that stand for content without a name. -/
def Node.contentNames (n : Node) : List String :=
  (if n.hasSimpleContent || n.mixed then ["valueOf_"] else []) ++
    (if n.anyAttribute then ["anyAttributes_"] else []) ++ (if n.isExtended then ["extensiontype_"] else [])

section calls

variable {m : Model} {style : AccessorStyle}

theorem fieldNames_fieldCalls (m : Model) (validated : List String) (fs : List Field) :
    (fieldCalls m validated fs).flatMap Call.fieldNames = fs.map (·.name) := by
  fun_induction fieldCalls m validated fs with
  | case1 => rfl
  | case2 _ f rest d hd hseen ih => exact congrArg (f.name :: ·) ih
  | case3 _ f rest d hd hseen ih => exact congrArg (f.name :: ·) ih
  | case4 _ f rest hd ih => exact congrArg (f.name :: ·) ih

/-- The calls for a type say the name for its base, and those of its fields. -/
theorem fieldNames_typeCalls (config : Config) (n : Node) (base : Option Node) :
    (typeCalls m config n base).flatMap Call.fieldNames =
      (base.map fun _ => "base").toList ++ (fields m config.accessorStyle n).map (·.name) := by
  have hmethods : ∀ specs : List MethodSpec,
      (specs.map fun spec => Call.userMethods (spec.render n.cleanName)).flatMap Call.fieldNames = [] := by
    intro specs
    simp [Call.fieldNames, List.flatMap_map]
  have hdocumentation : ((nonBlank? n.documentation).map Call.documentation).toList.flatMap Call.fieldNames = [] := by
    cases nonBlank? n.documentation <;> rfl
  unfold typeCalls
  simp only [List.flatMap_append, hmethods, hdocumentation, fieldNames_fieldCalls]
  cases base <;> simp [Call.fieldNames]

/-- The fields of children go by the names of these, but for wildcards, which share one name. -/
theorem names_childFields (wildcardSeen : Bool) (children : List Node) :
    ((childFields m style wildcardSeen children).map (·.name)).Perm
      ((children.filter (!·.isWildcard)).map (·.cleanName) ++
        if !wildcardSeen && children.any (·.isWildcard) then ["anytypeobjs_"] else []) := by
  fun_induction childFields m style wildcardSeen children with
  | case1 => simp
  | case2 child rest hwildcard ih => simpa [hwildcard] using ih
  | case3 _ child rest hwildcard hseen ih =>
      have hrest : ((childFields m style true rest).map (·.name)).Perm
          ((rest.filter (!·.isWildcard)).map (·.cleanName)) := by simpa using ih
      simpa [hwildcard, hseen, wildcardField, plainField] using
        (hrest.cons "anytypeobjs_").trans (List.perm_append_singleton _ _).symm
  | case4 _ child rest hwildcard ih => simpa [hwildcard, elementField, plainField] using ih

theorem names_contentFields (n : Node) : (contentFields m style n).map (·.name) = n.contentNames := by
  unfold contentFields Node.contentNames
  cases n.anyAttribute <;> cases n.isExtended <;> split <;> simp [plainField]

end calls

namespace Run

variable {m : Model} {config : Config}

/-- The names that the fields of a generated type are made from: one for the type that it derives from, and those of its
content. -/
def fieldNames (m : Model) (id : NodeId) : List String :=
  let children := (m.children id).map m.node
  ((parent? m id).map fun _ => "base").toList ++
    (children.filter (!·.isWildcard)).map (·.cleanName) ++
    (if children.any (·.isWildcard) then ["anytypeobjs_"] else []) ++
    (m.node id).attributes.values.map (·.cleanName) ++ (m.node id).contentNames

theorem fieldNames_typeBlock (id : NodeId) :
    ((typeBlock m config id).flatMap Call.fieldNames).Perm (fieldNames m id) := by
  have hattributes : ((m.node id).attributes.values.map (attributeField config.accessorStyle)).map (·.name) =
      (m.node id).attributes.values.map (·.cleanName) := by
    simp [attributeField, plainField]
  have hbase : ((parent? m id).map m.node).map (fun _ => "base") = (parent? m id).map fun _ => "base" := by
    cases parent? m id <;> rfl
  have hchildren :
      ((childFields m config.accessorStyle false ((m.children id).map m.node)).map (·.name)).Perm _ :=
    names_childFields false ((m.children id).map m.node)
  rw [typeBlock, fieldNames_typeCalls, fieldNames, fields, List.map_append, List.map_append, hattributes, hbase,
    names_contentFields]
  simp only [List.append_assoc]
  refine List.Perm.append_left _ ?_
  simpa [Model.children] using hchildren.append_right ((m.node id).attributes.values.map (·.cleanName) ++ (m.node id).contentNames)

/-- The struct of a declaration has the identifier of its clean name, and its fields have different identifiers if and only
if their names are different in snake case. -/
theorem nodup_fields_iff {id : NodeId} {s : Struct} (hs : Struct.MadeOf (typeBlock m config id) s) :
    (s.fields.map (·.name)).Nodup ↔ ((fieldNames m id).map Text.snakeCase).Nodup := by
  rw [Identifier.nodup_iff_of_forall₂ hs.hasNames Text.getLast?_snakeCase]
  exact ((fieldNames_typeBlock id).map Text.snakeCase).nodup_iff

/-- **When generated structs define no name twice.** The structs of a file have different identifiers if and only if the
emitted names, which are different, are so in Pascal case. The fields of a struct have different identifiers if and only
if the names of the content of its type are different in snake case. -/
theorem namesApart_iff {file : StructFile} (hfile : structFile (generate config m).calls = .ok file) :
    (generate config m).report.emitted.Nodup ∧
      ((file.structs.map (·.name)).Nodup ↔ ((generate config m).report.emitted.map Text.pascalCase).Nodup) ∧
      (∃ begun : List NodeId, (∀ id, id ∈ begun ↔ Begins m config id) ∧
        (generate config m).report.emitted = begun.map (fun id => (m.node id).cleanName) ∧
        List.Forall₂ (fun id s => (s.fields.map (·.name)).Nodup ↔ ((fieldNames m id).map Text.snakeCase).Nodup) begun
          file.structs) ∧
      (file.NamesApart ↔ ((generate config m).report.emitted.map Text.pascalCase).Nodup ∧
        ∀ id, Begins m config id → ((fieldNames m id).map Text.snakeCase).Nodup) := by
  obtain ⟨begun, hbegun⟩ := (reached_atRest m config).exists_recorded
  have hcalls : (generate config m).calls = begun.flatMap (typeBlock m config) := hbegun.calls
  have hemitted : (generate config m).report.emitted = begun.map fun id => (m.node id).cleanName := hbegun.emitted
  rw [hcalls] at hfile
  have hstructs := exists_structs_madeOf (fun id _ => ⟨_, _, isBlock_typeCalls m config _ _⟩) hfile
  have hnames : (file.structs.map (·.name)).Nodup ↔ ((generate config m).report.emitted.map Text.pascalCase).Nodup := by
    rw [hemitted, List.map_map]
    refine Identifier.nodup_iff_of_forall₂ ?_ fun id => Text.getLast?_pascalCase (m.node id).cleanName
    exact hstructs.imp fun id s hs => hs.name_eq (beginType_mem_typeBlock.mpr ⟨rfl, rfl⟩)
  have hfields := hstructs.imp fun id s hs => nodup_fields_iff hs
  refine ⟨?_, hnames, ⟨begun, fun id => hbegun.mem_iff, hemitted, hfields⟩, and_congr hnames ?_⟩
  · rw [(generate_sequential_basesFirst m config).2.2.2]
    exact (generate_sequential_basesFirst m config).2.2.1
  · -- Each declaration that is begun has a struct, and each struct belongs to one.
    obtain ⟨hleft, hright⟩ := exists_mem_of_forall₂ hfields
    constructor
    · intro hnodup id hid
      obtain ⟨s, hs, hiff⟩ := hleft id (hbegun.mem_iff.mpr hid)
      exact hiff.mp (hnodup s hs)
    · intro hnodup s hs
      obtain ⟨id, hid, hiff⟩ := hright s hs
      exact hiff.mpr (hnodup id (hbegun.mem_iff.mp hid))

end Run

/-! ### Names that differ in letter case -/

/-- Two types whose names differ in letter case alone. The first has two elements whose names do, too. -/
def writtenHomonyms : Model where
  nodes := #[taggedNode .schema "schema" false [⟨1⟩, ⟨4⟩], taggedNode .complexType "order" true [⟨2⟩, ⟨3⟩],
    stringElement "id" false, stringElement "ID" false, taggedNode .complexType "Order" true []]
  builtins := ⟨""⟩

/-- The same schema when it is resolved. -/
def homonyms : Model where
  nodes := #[taggedNode .schema "schema" false [⟨1⟩, ⟨4⟩],
    { taggedNode .complexType "order" true [⟨2⟩, ⟨3⟩] with resolvedType := some (.named "order"), isComplex := true },
    typedElement "id" false, typedElement "ID" false,
    { taggedNode .complexType "Order" true [] with resolvedType := some (.named "Order"), isComplex := true }]
  symbols := { elements := .ofList [("order", ⟨1⟩), ("Order", ⟨4⟩)] }
  builtins := ⟨""⟩

set_option maxRecDepth 20000 in
/-- What the schema is when it is resolved, and what its structs are. -/
theorem resolve_structs_homonyms :
    (writtenHomonyms.IsBuilt ∧ (resolve ∅ writtenHomonyms).model = homonyms) ∧
      ∃ file, structFile (generate {} homonyms).calls = .ok file ∧
        file.structs.map (fun s => (s.name, s.fields.map (·.name))) =
          [(⟨"Order"⟩, [⟨"id"⟩, ⟨"id"⟩]), (⟨"Order"⟩, [])] := by
  constructor
  · let ids := enclosed "element" [("name", "id"), ("type", "string")] [] ++
      enclosed "element" [("name", "ID"), ("type", "string")] []
    let types := enclosed "complexType" [("name", "order")] ids ++ enclosed "complexType" [("name", "Order")] []
    have hread : (Model.ofEvents none (enclosed "schema" [] types)).toOption = some writtenHomonyms := by decide
    let registered : Model := { writtenHomonyms with symbols := homonyms.symbols }
    have hids : writtenHomonyms.declarations = [⟨1⟩, ⟨2⟩, ⟨3⟩, ⟨4⟩] := by cbv
    have hregistered : (Resolved.forEach writtenHomonyms [⟨1⟩, ⟨2⟩, ⟨3⟩, ⟨4⟩] (registerNode ∅)).model = registered := by
      decide
    have htyped : (Resolved.forEach registered [⟨1⟩, ⟨2⟩, ⟨3⟩, ⟨4⟩] resolveDeclaration).model = homonyms := by
      decide
    exact ⟨Model.isBuilt_of_toOption_eq hread, Model.resolve_of_passes (by cbv) hids hregistered htyped (by cbv) (by cbv)⟩
  · have hfile : (structFile (generate {} homonyms).calls).toOption.map
        (fun file => file.structs.map fun s => (s.name, s.fields.map (·.name))) =
          some [(⟨"Order"⟩, [⟨"id"⟩, ⟨"id"⟩]), (⟨"Order"⟩, [])] := by
      decide +kernel
    obtain ⟨file, hfile, hstructs⟩ := Option.map_eq_some_iff.mp hfile
    exact ⟨file, eq_ok_of_toOption_eq_some hfile, hstructs⟩

/-- When the names of the two structs and of their fields would be different. -/
theorem namesApart_iff_homonyms :
    ∃ file, structFile (generate {} homonyms).calls = .ok file ∧
      (generate {} homonyms).report.emitted.Nodup ∧
      ((file.structs.map (·.name)).Nodup ↔ ((generate {} homonyms).report.emitted.map Text.pascalCase).Nodup) ∧
      (∃ begun : List NodeId, (∀ id, id ∈ begun ↔ Run.Begins homonyms {} id) ∧
        (generate {} homonyms).report.emitted = begun.map (fun id => (homonyms.node id).cleanName) ∧
        List.Forall₂ (fun id s => (s.fields.map (·.name)).Nodup ↔
          ((Run.fieldNames homonyms id).map Text.snakeCase).Nodup) begun file.structs) ∧
      (file.NamesApart ↔ ((generate {} homonyms).report.emitted.map Text.pascalCase).Nodup ∧
        ∀ id, Run.Begins homonyms {} id → ((Run.fieldNames homonyms id).map Text.snakeCase).Nodup) := by
  obtain ⟨-, file, hfile, -⟩ := resolve_structs_homonyms
  exact ⟨file, hfile, Run.namesApart_iff hfile⟩

/-- Both structs have the same identifier, and so have both fields of the first. -/
theorem not_namesApart_homonyms :
    writtenHomonyms.IsBuilt ∧ (resolve ∅ writtenHomonyms).model = homonyms ∧
      ∃ file, structFile (generate {} homonyms).calls = .ok file ∧ ¬ file.NamesApart ∧
        ¬ (file.structs.map (·.name)).Nodup ∧ ∃ s ∈ file.structs, ¬ (s.fields.map (·.name)).Nodup := by
  obtain ⟨⟨hbuilt, hresolved⟩, file, hfile, hstructs⟩ := resolve_structs_homonyms
  have hnames : file.structs.map (·.name) = [⟨"Order"⟩, ⟨"Order"⟩] := by
    simpa [Function.comp_def] using congrArg (List.map Prod.fst) hstructs
  have hrepeated : ¬ (file.structs.map (·.name)).Nodup := by
    rw [hnames]
    decide
  refine ⟨hbuilt, hresolved, file, hfile, fun h => hrepeated h.1, hrepeated, ?_⟩
  have hmem : ((⟨"Order"⟩ : Identifier), [(⟨"id"⟩ : Identifier), ⟨"id"⟩]) ∈
      file.structs.map (fun s => (s.name, s.fields.map (·.name))) := by
    rw [hstructs]
    exact List.mem_cons_self
  obtain ⟨s, hs, heq⟩ := List.mem_map.mp hmem
  refine ⟨s, hs, ?_⟩
  rw [(Prod.mk.inj heq).2]
  decide

end SchemaBinding
