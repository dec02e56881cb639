import Mathlib.Data.List.Permutation
import SchemaBinding.Proofs.Generation.Accounts
import SchemaBinding.Proofs.Generation.Blocks
import SchemaBinding.Proofs.Resolve.AttributeNames
import SchemaBinding.Proofs.Resolve.NamedTables
import SchemaBinding.Proofs.Resolve.Once
import SchemaBinding.Proofs.Resolve.SimpleChains

/-!
# `SchemaBinding.Proofs.Generation.Validators`: which restrictions are checked

A field whose values are restricted has a validator in the block of its type, but the validator need not check what the
field is restricted to. It is made for a name, that of the simple type of the field or else of the field itself, and a
block has one validator for each name. There are two choices on the way: where the simple type has facets of its own, these
are checked and not those of the field (`restriction?_of_restricted`), and among several fields of one name the first one
decides (`FirstCheck`).

`Begins.validator_of_restricted` says what comes of it. A field is checked by its own facets if and only if some first
field of its name is to be checked by the same ones. That is so where the facets are those of the simple type
(`TakesOver`), which all attributes have that no facets are written for (`Model.facets_written_or_takesOver`). An
attribute that narrows a restricted simple type is checked by the facets of the wider type (`not_validator_narrowed`).
-/

set_option autoImplicit false

namespace SchemaBinding

/-! ### Restrictions of fields -/

section restrictions
variable {m : Model} {f : Field} {fs : List Field} {d e : SimpleTypeDef} {validated : List String}

/-- The restriction of a field is the simple type of the field where that has facets, or else it has the facets of the
field. -/
theorem restriction?_of_restricted (hf : restriction? m f = some d) :
    (∃ name, f.simpleType = some name ∧ m.simpleType? name = some d ∧ d.facets.isRestricted = true) ∨
      (d.name = f.simpleType.getD f.name ∧ d.facets = f.facets ∧ f.facets.isRestricted = true ∧
        ∀ name e, f.simpleType = some name → m.simpleType? name = some e → e.facets.isRestricted = false) := by
  unfold restriction? at hf
  cases hnamed : (f.simpleType.bind m.simpleType?).filter (·.facets.isRestricted) with
  | some named =>
      rw [hnamed, Option.some.injEq] at hf
      subst hf
      obtain ⟨hfound, hrestricted⟩ := Option.filter_eq_some_iff.mp hnamed
      obtain ⟨name, hname, hd⟩ := Option.bind_eq_some_iff.mp hfound
      exact .inl ⟨name, hname, hd, hrestricted⟩
  | none =>
      rw [hnamed] at hf
      right
      simp only at hf
      split at hf
      · rename_i hrestricted
        cases hf
        refine ⟨rfl, rfl, hrestricted, fun name e hname he => ?_⟩
        have hfilter := Option.filter_eq_none_iff.mp hnamed e (by rw [hname, Option.bind_some, he])
        simpa using hfilter
      · cases hf

theorem exists_restriction? (h : f.facets.isRestricted = true) : ∃ d, restriction? m f = some d := by
  unfold restriction?
  cases (f.simpleType.bind m.simpleType?).filter (·.facets.isRestricted) with
  | some d => exact ⟨d, rfl⟩
  | none => exact ⟨_, if_pos h⟩

/-- The restriction `d` belongs to the first one of the fields that has a restriction of this name. -/
def FirstCheck (m : Model) (fs : List Field) (d : SimpleTypeDef) : Prop :=
  ∃ before f after, fs = before ++ f :: after ∧ restriction? m f = some d ∧
    ∀ g ∈ before, ∀ e, restriction? m g = some e → e.name ≠ d.name

/-- Of a list of fields, the first one decides, or else it has a restriction of another name. -/
theorem firstCheck_cons : FirstCheck m (f :: fs) d ↔
    restriction? m f = some d ∨ (∀ e, restriction? m f = some e → e.name ≠ d.name) ∧ FirstCheck m fs d := by
  constructor
  · rintro ⟨before, g, after, hsplit, hg, hbefore⟩
    cases before with
    | nil =>
        obtain ⟨rfl, -⟩ := List.cons_eq_cons.mp hsplit
        exact .inl hg
    | cons first before =>
        obtain ⟨rfl, rfl⟩ := List.cons_eq_cons.mp hsplit
        exact .inr ⟨hbefore f List.mem_cons_self,
          before, g, after, rfl, hg, fun x hx => hbefore x (List.mem_cons_of_mem f hx)⟩
  · rintro (hf | ⟨hother, before, g, after, rfl, hg, hbefore⟩)
    · exact ⟨[], f, fs, rfl, hf, by simp⟩
    · refine ⟨f :: before, g, after, rfl, hg, fun x hx => ?_⟩
      rcases List.mem_cons.mp hx with rfl | hx
      · exact hother
      · exact hbefore x hx

theorem not_firstCheck_nil : ¬ FirstCheck m [] d := by
  rintro ⟨before, f, after, hsplit, -, -⟩
  simp at hsplit

/-- A name has one first restriction. -/
theorem FirstCheck.eq_of_name_eq (hd : FirstCheck m fs d) (he : FirstCheck m fs e) (hname : d.name = e.name) : d = e := by
  induction fs with
  | nil => exact absurd hd not_firstCheck_nil
  | cons f rest ih =>
      rcases firstCheck_cons.mp hd with hd | ⟨hotherd, hd⟩
      · rcases firstCheck_cons.mp he with he | ⟨hothere, -⟩
        · exact Option.some.inj (hd.symm.trans he)
        · exact absurd hname (hothere d hd)
      · rcases firstCheck_cons.mp he with he | ⟨-, he⟩
        · exact absurd hname.symm (hotherd e he)
        · exact ih hd he

/-- Where a field has a restriction, there is a first one of that name. -/
theorem exists_firstCheck (hf : f ∈ fs) (hd : restriction? m f = some d) :
    ∃ e, FirstCheck m fs e ∧ e.name = d.name := by
  induction fs with
  | nil => cases hf
  | cons g rest ih =>
      by_cases hg : ∃ e, restriction? m g = some e ∧ e.name = d.name
      · obtain ⟨e, he, hname⟩ := hg
        exact ⟨e, firstCheck_cons.mpr (.inl he), hname⟩
      · rcases List.mem_cons.mp hf with rfl | hf
        · exact absurd ⟨d, hd, rfl⟩ hg
        · obtain ⟨e, he, hname⟩ := ih hf
          exact ⟨e, firstCheck_cons.mpr (.inr ⟨fun x hx hsame => hg ⟨x, hx, hsame.trans hname⟩, he⟩), hname⟩

/-! ### Validators -/

/-- The validators are those of the first restrictions, for names that have none yet. -/
theorem validator_mem_fieldCalls :
    .validator d ∈ fieldCalls m validated fs ↔ d.name ∉ validated ∧ FirstCheck m fs d := by
  induction fs generalizing validated with
  | nil => simp [fieldCalls, not_firstCheck_nil]
  | cons f rest ih =>
      rw [firstCheck_cons]
      unfold fieldCalls
      split
      · rename_i e he
        split
        · rename_i hseen
          have hseen : e.name ∈ validated := by simpa using hseen
          simp only [List.mem_cons, reduceCtorEq, false_or, ih, he, Option.some.injEq, forall_eq']
          constructor
          · rintro ⟨hnew, hrest⟩
            exact ⟨hnew, .inr ⟨fun hsame => hnew (hsame ▸ hseen), hrest⟩⟩
          · rintro ⟨hnew, rfl | ⟨-, hrest⟩⟩
            · exact absurd hseen hnew
            · exact ⟨hnew, hrest⟩
        · rename_i hseen
          have hseen : e.name ∉ validated := by simpa using hseen
          simp only [List.mem_cons, reduceCtorEq, false_or, ih, he, Option.some.injEq, forall_eq', Call.validator.injEq,
            not_or]
          constructor
          · rintro (rfl | ⟨⟨hother, hnew⟩, hrest⟩)
            · exact ⟨hseen, .inl rfl⟩
            · exact ⟨hnew, .inr ⟨Ne.symm hother, hrest⟩⟩
          · rintro ⟨hnew, rfl | ⟨hother, hrest⟩⟩
            · exact .inl rfl
            · exact .inr ⟨⟨Ne.symm hother, hnew⟩, hrest⟩
      · rename_i hnone
        simp [ih, hnone]

theorem validator_mem_typeCalls {config : Config} {n : Node} {base : Option Node} :
    .validator d ∈ typeCalls m config n base ↔ FirstCheck m (fields m config.accessorStyle n) d := by
  simp [typeCalls, validator_mem_fieldCalls]

end restrictions

/-! ### Facets of simple types -/

/-- The facets that a simple type comes to by way of its bases: those of the first one that has any. -/
def chainFacets (m : Model) (name : String) : Facets :=
  (((simpleTypesWithin m name maxAliasHops).find? (·.facets.isRestricted)).map (·.facets)).getD {}

/-- The field has the facets of its simple type. -/
def TakesOver (m : Model) (f : Field) : Prop := ∃ name, f.simpleType = some name ∧ f.facets = chainFacets m name

theorem Facets.eq_empty_of_unrestricted {f : Facets} (h : f.isRestricted = false) : f = {} := by
  obtain ⟨enumeration, minimum, maximum⟩ := f
  simp_all [isRestricted]

theorem chainFacets_of_restricted {m : Model} {name : String} {d : SimpleTypeDef} (hd : m.simpleType? name = some d)
    (hrestricted : d.facets.isRestricted = true) : chainFacets m name = d.facets := by
  unfold chainFacets simpleTypesWithin maxAliasHops
  rw [hd, Trail.upTo_succ, List.find?_cons, hrestricted]
  rfl

/-- Such a field is to be checked by its facets. -/
theorem TakesOver.facets_eq {m : Model} {f : Field} {d : SimpleTypeDef} (h : TakesOver m f)
    (hd : restriction? m f = some d) : d.facets = f.facets := by
  obtain ⟨name, hname, hfacets⟩ := h
  rcases restriction?_of_restricted hd with ⟨name', hname', hfound, hrestricted⟩ | ⟨-, hown, -⟩
  · rw [hname, Option.some.injEq] at hname'
    rw [hfacets, hname', chainFacets_of_restricted hfound hrestricted]
  · exact hown

/-! ### Facets of attributes -/

theorem chainFacets_congr {m m' : Model} (hsimple : m'.simpleType? = m.simpleType?) (hbuiltins : m'.builtins = m.builtins)
    (name : String) : chainFacets m' name = chainFacets m name := by
  have hnext : (fun d : SimpleTypeDef => d.next? m') = fun d => d.next? m := by
    funext d
    unfold SimpleTypeDef.next?
    rw [hsimple, hbuiltins]
  unfold chainFacets simpleTypesWithin
  rw [hnext, hsimple]

/-- An attribute that gets a simple type takes over its facets, unless facets are written for the attribute. -/
theorem resolveAttribute_facets (m : Model) (owner key : String) (d : AttributeDef) :
    ((resolveAttribute m owner key d).1.simpleTypeName = d.simpleTypeName ∧
        (resolveAttribute m owner key d).1.facets = d.facets) ∨
      ∃ name, (resolveAttribute m owner key d).1.simpleTypeName = some name ∧
        (resolveAttribute m owner key d).1.facets = if d.facets.isRestricted then d.facets else chainFacets m name := by
  unfold resolveAttribute
  split
  · exact .inl ⟨rfl, rfl⟩
  · exact .inl ⟨rfl, rfl⟩
  · rename_i name _
    split
    · refine .inr ⟨name, rfl, ?_⟩
      have hchain := congrArg SimpleChain.facets (chain_chaseSimpleFrom m owner name maxAliasHops {} name)
      have hfacets : (chaseSimple m owner name).1.facets =
          ((simpleTypesWithin m name maxAliasHops).find? (·.facets.isRestricted)).map (·.facets) := by
        simpa [chaseSimple, SimpleChain.facets_foldl_extend] using hchain
      show d.facets.orElse (chaseSimple m owner name).1.facets = _
      rw [Facets.orElse, hfacets, chainFacets]
      cases hwritten : d.facets.isRestricted with
      | true => rfl
      | false => rw [Facets.eq_empty_of_unrestricted hwritten]
    · exact .inl ⟨rfl, rfl⟩

/-- The attributes of a node are those from before, each one resolved. -/
theorem exists_of_mem_resolveAttributes {m : Model} {id : NodeId} (hheld : m.Holds id) {d : AttributeDef}
    (hd : d ∈ ((resolveAttributes m id).model.node id).attributes.values) :
    ∃ key, ∃ before ∈ (m.node id).attributes.values, (resolveAttribute m (m.node id).name key before).1 = d := by
  unfold resolveAttributes at hd
  dsimp only at hd
  rw [Model.node_modifyNode, if_pos ⟨rfl, hheld⟩] at hd
  obtain ⟨entry, hentry, rfl⟩ := List.mem_map.mp hd
  obtain ⟨resolved, hresolved, rfl⟩ := List.mem_map.mp hentry
  obtain ⟨old, hold, rfl⟩ := List.mem_map.mp hresolved
  exact ⟨old.1, old.2, List.mem_map_of_mem hold, rfl⟩

/-- The same when the node gets its type on the way. -/
theorem exists_of_mem_resolveDeclaration {m : Model} {id : NodeId} (hheld : m.Holds id) {d : AttributeDef}
    (hd : d ∈ ((resolveDeclaration m id).model.node id).attributes.values) :
    ∃ current owner key, ∃ before ∈ (m.node id).attributes.values, current.simpleType? = m.simpleType? ∧
      current.builtins = m.builtins ∧ (resolveAttribute current owner key before).1 = d := by
  unfold resolveDeclaration Resolved.andThen at hd
  obtain ⟨key, before, hbefore, hsame⟩ :=
    exists_of_mem_resolveAttributes ((Model.holds_modifyNode m id _ id).mpr hheld) hd
  rw [Model.node_modifyNode, if_pos ⟨rfl, hheld⟩] at hbefore
  refine ⟨_, _, key, before, hbefore, ?_, ?_, hsame⟩ <;> rfl

namespace Model

/-- The facets of an attribute were written for it, or it takes over those of its simple type. -/
theorem facets_written_or_takesOver (names : NameTable) (m : Model) {id : NodeId}
    (hid : id ∈ (resolve names m).model.declarations) {d : AttributeDef}
    (hd : d ∈ ((resolve names m).model.node id).attributes.values) (style : AccessorStyle) :
    (∃ written ∈ ((Stage.collected m).node id).attributes.values, written.name = d.name ∧ written.facets = d.facets) ∨
      TakesOver (resolve names m).model (attributeField style d) := by
  -- The passes before and after the one for types keep what a restriction is made from.
  let restricting (d : AttributeDef) := (d.name, d.simpleTypeName, d.facets)
  have hlater : Keeps (fun n => n.attributes.values.map restricting) (fun _ => ()) (Stage.typed names m)
      (resolve names m).model :=
    keeps_values_typed (fun _ _ => rfl) names m
  have hearlier : Keeps (fun n => n.attributes.values.map restricting) (fun _ => ()) (Stage.collected m)
      (Stage.registered names m) := by
    refine keeps_registerSymbols names (fun n => ?_) (fun _ _ _ => rfl) _
    simp [cleanNames, Table.map, Table.values, restricting]
  have hkept : Keeps Node.declaredType Symbols.simpleTypes (Stage.registered names m) (resolve names m).model :=
    keeps_registered names m (fun _ _ => rfl) (fun _ _ _ => rfl) (fun _ _ _ => rfl) fun _ => rfl
  rw [← declarations_registered] at hid
  obtain ⟨moment, hmoment, hnode, htyped⟩ :=
    exists_moment_of_declaration Node.declaredType (fun _ _ _ => rfl) (fun _ _ => rfl) hid
  have hmem : restricting d ∈ ((Stage.typed names m).node id).attributes.values.map restricting := by
    rw [← hlater.node id]
    exact List.mem_map_of_mem hd
  obtain ⟨typed, htypedmem, hsame⟩ := List.mem_map.mp hmem
  rw [Stage.typed, htyped] at htypedmem
  have hheld : moment.Holds id := (hmoment.holds_iff id).mpr (holds_of_mem_declarations hid)
  obtain ⟨current, owner, key, registered, hregistered, hsimpleTypes, hbuiltins, rfl⟩ :=
    exists_of_mem_resolveDeclaration hheld htypedmem
  rw [hnode] at hregistered
  have hchain : ∀ name, chainFacets current name = chainFacets (resolve names m).model name := fun name => by
    rw [chainFacets_congr hsimpleTypes hbuiltins,
      chainFacets_congr (hmoment.of_known Symbols.simpleTypes).simpleType?_eq hmoment.builtins,
      chainFacets_congr hkept.simpleType?_eq hkept.builtins]
  have hwritten : restricting registered ∈ ((Stage.collected m).node id).attributes.values.map restricting := by
    rw [← hearlier.node id]
    exact List.mem_map_of_mem hregistered
  obtain ⟨written, hwrittenmem, hwrittensame⟩ := List.mem_map.mp hwritten
  simp only [restricting, Prod.mk.injEq] at hsame hwrittensame
  obtain ⟨hname, hsimple, hfacets⟩ := hsame
  rw [(resolveAttribute_names current owner key registered).1] at hname
  have hown : registered.facets = d.facets → ∃ written ∈ ((Stage.collected m).node id).attributes.values,
      written.name = d.name ∧ written.facets = d.facets := fun h =>
    ⟨written, hwrittenmem, hwrittensame.1.trans hname, hwrittensame.2.2.trans h⟩
  rcases resolveAttribute_facets current owner key registered with ⟨-, hkeep⟩ | ⟨name, hnamed, htaken⟩
  · exact .inl (hown (hkeep.symm.trans hfacets))
  · rw [hfacets] at htaken
    split at htaken
    · exact .inl (hown htaken.symm)
    · exact .inr ⟨name, hsimple.symm.trans hnamed, htaken.trans (hchain name)⟩

/-- Simple types are found under their names. -/
theorem IsResolved.simpleType?_name {names : NameTable} {r : Model} (hr : r.IsResolved names) {name : String}
    {d : SimpleTypeDef} (hd : r.simpleType? name = some d) : r.simpleType? d.name = some d := by
  unfold simpleType? Symbols.simpleType?
  rw [hr.wellNamed.get?_name hd]

end Model

/-- Two fields that have the facets of their simple types are to be checked by the same facets if it is under the same
name. -/
theorem TakesOver.facets_eq_of_name {names : NameTable} {r : Model} (hr : r.IsResolved names) {f g : Field}
    {d e : SimpleTypeDef} (hf : TakesOver r f) (hg : TakesOver r g) (hd : restriction? r f = some d)
    (he : restriction? r g = some e) (hname : d.name = e.name) : e.facets = f.facets := by
  rw [← hf.facets_eq hd]
  obtain ⟨fname, hfname, hffacets⟩ := hf
  obtain ⟨gname, hgname, hgfacets⟩ := hg
  rcases restriction?_of_restricted hd with ⟨fname', hfname', hfound, hfr⟩ | ⟨hfown, hffacets', -, hfnone⟩ <;>
    rcases restriction?_of_restricted he with ⟨gname', hgname', hgound, hgr⟩ | ⟨hgown, hgfacets', -, hgnone⟩
  · -- Both are simple types under one name.
    have hsame := hr.simpleType?_name hfound
    rw [hname, hr.simpleType?_name hgound, Option.some.injEq] at hsame
    rw [hsame]
  · -- The simple type of `g` would be the restricted one of `f`.
    have hsame := hr.simpleType?_name hfound
    rw [hname, hgown, hgname, Option.getD_some] at hsame
    rw [hgnone gname d hgname hsame] at hfr
    cases hfr
  · have hsame := hr.simpleType?_name hgound
    rw [← hname, hfown, hfname, Option.getD_some] at hsame
    rw [hfnone fname e hfname hsame] at hgr
    cases hgr
  · rw [hfown, hgown, hfname, hgname, Option.getD_some, Option.getD_some] at hname
    rw [hffacets', hgfacets', hffacets, hgfacets, hname]

namespace Run

/-- The block of a generated type stands among the calls of the run. -/
theorem Begins.exists_split {m : Model} {config : Config} {id : NodeId} (h : Begins m config id) :
    ∃ front back, (generate config m).calls = front ++ typeBlock m config id ++ back := by
  obtain ⟨begun, hbegun⟩ := (reached_atRest m config).exists_recorded
  obtain ⟨before, after, rfl⟩ := List.append_of_mem (hbegun.mem_iff.mpr h)
  have hcalls : (generate config m).calls = (before ++ id :: after).flatMap (typeBlock m config) := hbegun.calls
  refine ⟨before.flatMap (typeBlock m config), after.flatMap (typeBlock m config), ?_⟩
  rw [hcalls, List.flatMap_append, List.flatMap_cons, List.append_assoc]

section
variable {names : NameTable} {r : Model} {config : Config}

/-- A restricted field of a generated type has one validator of its name in the block of the type, and that is the
restriction of the first field of this name. So the field is checked by its own facets exactly if some first field is to be
checked by the same ones. Where all fields of its name have the facets of their simple types, its validator has them. -/
theorem Begins.validator_of_restricted (hr : r.IsResolved names) {id : NodeId} (h : Begins r config id) {f : Field}
    (hf : f ∈ fields r config.accessorStyle (r.node id)) (hrestricted : f.facets.isRestricted = true) :
    ∃ front back d, (generate config r).calls = front ++ typeBlock r config id ++ back ∧ restriction? r f = some d ∧
      (∃ first, FirstCheck r (fields r config.accessorStyle (r.node id)) first ∧ first.name = d.name ∧
        ∀ x, .validator x ∈ typeBlock r config id ∧ x.name = d.name ↔ x = first) ∧
      ((∃ x, .validator x ∈ typeBlock r config id ∧ x.facets = f.facets) ↔
        ∃ first, FirstCheck r (fields r config.accessorStyle (r.node id)) first ∧ first.facets = f.facets) ∧
      ((∀ g ∈ fields r config.accessorStyle (r.node id), ∀ e, restriction? r g = some e → e.name = d.name →
          TakesOver r g) →
        ∃ x, .validator x ∈ typeBlock r config id ∧ x.name = d.name ∧ x.facets = f.facets) := by
  have hvalidator : ∀ x, .validator x ∈ typeBlock r config id ↔
      FirstCheck r (fields r config.accessorStyle (r.node id)) x := fun x => validator_mem_typeCalls
  obtain ⟨front, back, hcalls⟩ := h.exists_split
  obtain ⟨d, hd⟩ := exists_restriction? (m := r) hrestricted
  obtain ⟨first, hfirst, hname⟩ := exists_firstCheck hf hd
  refine ⟨front, back, d, hcalls, hd, ⟨first, hfirst, hname, fun x => ?_⟩, by simp only [hvalidator], fun htakes => ?_⟩
  · rw [hvalidator]
    constructor
    · rintro ⟨hx, hxname⟩
      exact hx.eq_of_name_eq hfirst (hxname.trans hname.symm)
    · rintro rfl
      exact ⟨hfirst, hname⟩
  · refine ⟨first, (hvalidator first).mpr hfirst, hname, ?_⟩
    obtain ⟨before, g, after, hsplit, hg, -⟩ := hfirst
    have hgmem : g ∈ fields r config.accessorStyle (r.node id) := by
      rw [hsplit]
      simp
    exact (htakes f hf d hd rfl).facets_eq_of_name hr (htakes g hgmem first hg hname) hd hg hname.symm

end

/-- The type `Order` has an attribute for a `Size` of at most 5, where a `Size` is at least 1. -/
def writtenNarrowed : Model where
  nodes := #[taggedNode .schema "schema" false [⟨1⟩],
    { taggedNode .complexType "Order" true [] with
      attributes := ⟨[("count", { AttributeDef.declared "count" "Size" with facets := { maximum := some "5" } })]⟩ }]
  symbols :=
    { simpleTypes := .ofList [("Size", { name := "Size", base := some "int", facets := { minimum := some "1" } })]
      topLevelSimpleTypes := ["Size"] }
  builtins := ⟨""⟩

/-- The same schema when it is resolved. -/
def narrowed : Model where
  nodes := #[taggedNode .schema "schema" false [⟨1⟩],
    { taggedNode .complexType "Order" true [] with
      attributes := ⟨[("count", { AttributeDef.declared "count" "Size" with
        facets := { maximum := some "5" }
        resolvedType := some .int
        simpleTypeName := some "Size" })]⟩
      resolvedType := some (.named "Order")
      isComplex := true }]
  symbols := { writtenNarrowed.symbols with elements := .ofList [("Order", ⟨1⟩)] }
  builtins := ⟨""⟩

set_option maxRecDepth 20000 in
theorem isResolved_narrowed : narrowed.IsResolved ∅ := by
  let size := enclosed "simpleType" [("name", "Size")]
    (enclosed "restriction" [("base", "int")] (enclosed "minInclusive" [("value", "1")] []))
  let order := enclosed "complexType" [("name", "Order")] (enclosed "attribute" [("name", "count")]
    (enclosed "simpleType" [] (enclosed "restriction" [("base", "Size")] (enclosed "maxInclusive" [("value", "5")] []))))
  have hread : (Model.ofEvents none (enclosed "schema" [] (size ++ order))).toOption = some writtenNarrowed := by
    decide +kernel
  let registered : Model := { writtenNarrowed with symbols := narrowed.symbols }
  have hids : writtenNarrowed.declarations = [⟨1⟩] := by cbv
  have hregistered : (Resolved.forEach writtenNarrowed [⟨1⟩] (registerNode ∅)).model = registered := by decide +kernel
  have htyped : (Resolved.forEach registered [⟨1⟩] resolveDeclaration).model = narrowed := by decide +kernel
  exact (Model.isBuilt_of_toOption_eq hread).isResolved_of_passes (by cbv) hids hregistered htyped (by cbv) (by cbv)

/-- The field of the attribute. -/
def narrowedField : Field :=
  { plainField ({} : Config).accessorStyle "count" .attribute (.primitive .int) with
    simpleType := some "Size"
    facets := { maximum := some "5" } }

theorem begins_narrowed : Begins narrowed {} ⟨1⟩ := by
  have hemitted : (atRest narrowed {}).report.emitted = ["Order"] := by decide +kernel
  refine ((reached_atRest narrowed {}).begins_of_cleanName_mem (by decide) (by decide) ?_).1
  rw [hemitted]
  decide

theorem validator_of_restricted_narrowed :
    narrowed.IsResolved ∅ ∧ Begins narrowed {} ⟨1⟩ ∧
      narrowedField ∈ fields narrowed ({} : Config).accessorStyle (narrowed.node ⟨1⟩) ∧
      narrowedField.facets.isRestricted = true ∧
      ∃ front back d, (generate {} narrowed).calls = front ++ typeBlock narrowed {} ⟨1⟩ ++ back ∧
        restriction? narrowed narrowedField = some d ∧
        (∃ first, FirstCheck narrowed (fields narrowed ({} : Config).accessorStyle (narrowed.node ⟨1⟩)) first ∧
          first.name = d.name ∧ ∀ x, .validator x ∈ typeBlock narrowed {} ⟨1⟩ ∧ x.name = d.name ↔ x = first) ∧
        ((∃ x, .validator x ∈ typeBlock narrowed {} ⟨1⟩ ∧ x.facets = narrowedField.facets) ↔
          ∃ first, FirstCheck narrowed (fields narrowed ({} : Config).accessorStyle (narrowed.node ⟨1⟩)) first ∧
            first.facets = narrowedField.facets) ∧
        ((∀ g ∈ fields narrowed ({} : Config).accessorStyle (narrowed.node ⟨1⟩), ∀ e, restriction? narrowed g = some e →
            e.name = d.name → TakesOver narrowed g) →
          ∃ x, .validator x ∈ typeBlock narrowed {} ⟨1⟩ ∧ x.name = d.name ∧ x.facets = narrowedField.facets) := by
  have hf : narrowedField ∈ fields narrowed ({} : Config).accessorStyle (narrowed.node ⟨1⟩) := by decide +kernel
  have hrestricted : narrowedField.facets.isRestricted = true := by decide
  exact ⟨isResolved_narrowed, begins_narrowed, hf, hrestricted,
    begins_narrowed.validator_of_restricted isResolved_narrowed hf hrestricted⟩

/-- The only validator of the block checks that a `Size` is at least 1. Nothing checks that the attribute is at most 5. -/
theorem not_validator_narrowed :
    narrowed.IsResolved ∅ ∧ Begins narrowed {} ⟨1⟩ ∧
      narrowedField ∈ fields narrowed ({} : Config).accessorStyle (narrowed.node ⟨1⟩) ∧
      narrowedField.facets.isRestricted = true ∧
      ∀ x, .validator x ∈ (generate {} narrowed).calls →
        x.name = "Size" ∧ x.facets = { minimum := some "1" } ∧ x.facets ≠ narrowedField.facets := by
  have hcalls : ∀ c ∈ (generate {} narrowed).calls, ∀ x, c = .validator x →
      x = { name := "Size", base := some "int", facets := { minimum := some "1" } } := by
    have hall : (generate {} narrowed).calls = [.beginType none "Order", .field narrowedField,
        .validator { name := "Size", base := some "int", facets := { minimum := some "1" } }, .comparators,
        .serializeHooks, .deserializeHooks, .endType] := by
      decide +kernel
    rw [hall]
    simp
  refine ⟨isResolved_narrowed, begins_narrowed, by decide +kernel, by decide, fun x hx => ?_⟩
  rw [hcalls _ hx x rfl]
  exact ⟨rfl, rfl, by decide⟩

end Run

end SchemaBinding
