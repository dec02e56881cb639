import SchemaBinding.Proofs.Builder.Runs

/-!
# `SchemaBinding.Proofs.Builder.SchemaPrefix`: the prefix that a root tag brings with it

When no prefix is given, the builder takes the first one that the attributes of the root bind to the schema namespace
(`Attributes.schemaPrefixes`), whatever prefix the root itself has. A document may bind the namespace more than once, by a
default declaration as well as by prefixes. So the root is recognised if and only if the first of the prefixes is its own
(`Builder.tag_root_eq_schema_iff`).

If it is not, then no tag with the prefix of the root is recognised, and a document made of such tags leaves the model
empty without any error (`Builder.Quiet.feedAll`).
-/

set_option autoImplicit false

namespace SchemaBinding

/-! ### Names without a prefix -/

theorem colon_not_mem_localPart (raw : String) : ':' ∉ (localPart raw).toList := by
  intro hmem
  have hchars : (localPart raw).toList = (raw.toList.reverse.takeWhile (· ≠ ':')).reverse := by
    unfold localPart PrefixedName.ofString
    dsimp only
    split <;> simp
  rw [hchars, List.mem_reverse] at hmem
  simpa using List.mem_takeWhile_imp hmem

theorem PrefixedName.ofString_of_not_mem {raw : String} (h : ':' ∉ raw.toList) : ofString raw = ⟨"", raw⟩ := by
  have hall : ∀ c ∈ raw.toList.reverse, decide (c ≠ ':') = true := by
    intro c hc
    rw [decide_eq_true_eq]
    rintro rfl
    exact h (List.mem_reverse.mp hc)
  have hfront : raw.toList.reverse.dropWhile (fun c => decide (c ≠ ':')) = [] := List.dropWhile_eq_nil_iff.mpr hall
  have hlocal : raw.toList.reverse.takeWhile (fun c => decide (c ≠ ':')) = raw.toList.reverse :=
    List.takeWhile_eq_self_iff.mpr hall
  simp only [ofString, hfront, hlocal, List.reverse_reverse, String.ofList_toList]

theorem ofString_localPart (raw : String) : PrefixedName.ofString (localPart raw) = ⟨"", localPart raw⟩ :=
  PrefixedName.ofString_of_not_mem (colon_not_mem_localPart raw)

/-! ### Prefixes of the schema namespace -/

/-- The prefix that an attribute binds to the schema namespace. -/
def boundPrefix? (pair : String × String) : Option String :=
  let mark := "xmlns:".toList
  if mark.isPrefixOf pair.1.toList && pair.2 = schemaNamespace then
    some (String.ofList (pair.1.toList.drop mark.length))
  else none

theorem boundPrefix?_eq_some_iff {pair : String × String} {nsPrefix : String} :
    boundPrefix? pair = some nsPrefix ↔ pair = ("xmlns:" ++ nsPrefix, schemaNamespace) := by
  obtain ⟨name, value⟩ := pair
  have hname : "xmlns:".toList.isPrefixOf name.toList = true ∧
      String.ofList (name.toList.drop "xmlns:".toList.length) = nsPrefix ↔ name = "xmlns:" ++ nsPrefix := by
    constructor
    · rintro ⟨hmark, rfl⟩
      obtain ⟨rest, hrest⟩ := List.isPrefixOf_iff_prefix.mp hmark
      rw [← String.toList_inj, ← hrest]
      simp
    · rintro rfl
      simp
  unfold boundPrefix?
  simp only [Bool.and_eq_true, decide_eq_true_eq, Prod.mk.injEq, Option.ite_none_right_eq_some, Option.some.injEq, ← hname]
  tauto

namespace Attributes

/-- The prefixes that a start tag binds to the schema namespace, in the order of the attributes. -/
def schemaPrefixes (a : Attributes) : List String := a.pairs.filterMap boundPrefix?

/-- A start tag binds the prefix of its own name to the schema namespace, as the default one if there is no prefix. -/
def BindsOwnPrefix (a : Attributes) (name : String) : Prop :=
  (if ':' ∈ name.toList then "xmlns:" ++ (PrefixedName.ofString name).nsPrefix else "xmlns", schemaNamespace) ∈ a.pairs

instance (a : Attributes) (name : String) : Decidable (a.BindsOwnPrefix name) :=
  inferInstanceAs (Decidable (_ ∈ a.pairs))

variable {a : Attributes} {name : String}

theorem mem_schemaPrefixes {nsPrefix : String} :
    nsPrefix ∈ a.schemaPrefixes ↔ ("xmlns:" ++ nsPrefix, schemaNamespace) ∈ a.pairs := by
  simp [schemaPrefixes, List.mem_filterMap, boundPrefix?_eq_some_iff]

end Attributes

/-- The names have the same prefix. -/
def SamePrefix (name other : String) : Prop :=
  (PrefixedName.ofString name).nsPrefix = (PrefixedName.ofString other).nsPrefix

instance (name other : String) : Decidable (SamePrefix name other) := inferInstanceAs (Decidable (_ = _))

theorem Builtins.tag_of_prefix_eq {builtins : Builtins} {name : String}
    (h : (PrefixedName.ofString name).nsPrefix = builtins.nsPrefix) :
    builtins.tag name = .ofLocalName (localPart name) := by
  unfold tag localName?
  simp only [if_pos h]
  rfl

theorem Builtins.tag_of_prefix_ne {builtins : Builtins} {name : String}
    (h : (PrefixedName.ofString name).nsPrefix ≠ builtins.nsPrefix) : builtins.tag name = .other := by
  unfold tag localName?
  simp only [if_neg h]

namespace Builder

variable {b b' : Builder} {root : String} {attributes : Attributes} {events : List Event}

/-! ### The root tag -/

/-- Without a given prefix, the first one that is bound to the schema namespace counts. -/
theorem detectPrefix_eq (root : String) (attributes : Attributes) : (start none).detectPrefix root attributes =
    attributes.schemaPrefixes.head?.getD (if ':' ∈ root.toList then Builtins.defaultPrefix else "") := by
  have hfirst : attributes.schemaPrefixes.head? = attributes.pairs.findSome? boundPrefix? := List.head?_filterMap
  rw [hfirst]
  unfold detectPrefix
  extract_lets mark bound
  have hbound : bound = boundPrefix? := rfl
  rw [hbound]
  cases attributes.pairs.findSome? boundPrefix? with
  | some first => rfl
  | none =>
      show (if root.toList.contains ':' then Builtins.defaultPrefix else "") = _
      simp

theorem nsPrefix_detectPrefix (hbinds : attributes.BindsOwnPrefix root) :
    (PrefixedName.ofString root).nsPrefix = (Builtins.ofPrefix ((start none).detectPrefix root attributes)).nsPrefix ↔
      ∀ first ∈ attributes.schemaPrefixes.head?,
        (Builtins.ofPrefix first).nsPrefix = (PrefixedName.ofString root).nsPrefix := by
  rw [detectPrefix_eq]
  cases hfirst : attributes.schemaPrefixes.head? with
  | some first => simp [eq_comm]
  | none =>
      -- Nothing but the default declaration binds the namespace, so the root has no prefix.
      have hnone : attributes.schemaPrefixes = [] := List.head?_eq_none_iff.mp hfirst
      have hbare : ':' ∉ root.toList := by
        intro hcolon
        rw [Attributes.BindsOwnPrefix, if_pos hcolon, ← Attributes.mem_schemaPrefixes, hnone] at hbinds
        cases hbinds
      simp [hbare, PrefixedName.ofString_of_not_mem hbare]
      rfl

/-! ### Tags that are not recognised -/

/-- Nothing that is open can add to the model. -/
structure Quiet (b : Builder) : Prop where
  seenRoot : b.seenRoot = true
  depth : b.documentationDepth = 0
  closings : ∀ tag ∈ b.openTags, tag.closing = .nothing ∨ tag.closing = .closeSchema

theorem Quiet.feed {e : Event} (h : b.Quiet) (hfeed : b.feed e = .ok b')
    (hother : ∀ name attributes, e = .startTag name attributes → b.builtins.tag name = .other) :
    b'.Quiet ∧ b'.model = b.model := by
  cases e with
  | text content =>
      -- Texts only count inside of documentation.
      have hsame : b.text content = b := by simp [text, h.depth]
      cases hfeed
      rw [hsame]
      exact ⟨h, rfl⟩
  | startTag name attributes =>
      obtain ⟨opened, closing, hstart, rfl⟩ := exists_of_startTag h.seenRoot hfeed
      rw [hother name attributes rfl] at hstart
      cases hstart
      refine ⟨⟨h.seenRoot, h.depth, fun tag htag => ?_⟩, rfl⟩
      rcases List.mem_cons.mp htag with rfl | htag
      · exact .inl rfl
      · exact h.closings tag htag
  | endTag name =>
      obtain ⟨closing, rest, hopen, hclose⟩ := exists_of_endTag hfeed
      have hrest : ∀ tag ∈ rest, tag.closing = .nothing ∨ tag.closing = .closeSchema := fun tag htag =>
        h.closings tag (hopen ▸ List.mem_cons_of_mem _ htag)
      rcases h.closings ⟨name, closing⟩ (hopen ▸ List.mem_cons_self ..) with hclosing | hclosing
      all_goals
        obtain rfl : closing = _ := hclosing
        cases hclose
        exact ⟨⟨h.seenRoot, h.depth, hrest⟩, rfl⟩

/-- Tags that are not recognised leave the model as it is. -/
theorem Quiet.feedAll (h : b.Quiet) (hfeed : b.feedAll events = .ok b')
    (hother : ∀ name attributes, .startTag name attributes ∈ events → b.builtins.tag name = .other) :
    b'.model = b.model := by
  induction events generalizing b with
  | nil =>
      cases hfeed
      rfl
  | cons e rest ih =>
      obtain ⟨next, hfirst, hrest⟩ := exists_of_feedAll_cons hfeed
      obtain ⟨hnext, hmodel⟩ := h.feed hfirst fun name attributes heq =>
        hother name attributes (heq ▸ List.mem_cons_self ..)
      have hbuiltins : next.builtins = b.builtins := congrArg Model.builtins hmodel
      rw [ih hnext hrest fun name attributes hmem => hbuiltins ▸ hother name attributes (List.mem_cons_of_mem _ hmem)]
      exact hmodel

/-! ### Documents -/

/-- **Whether the root of a document is recognised.** If its attributes bind its own prefix to the schema namespace, it is
recognised if and only if this is the first prefix that they bind to it. Then so are all tags with its prefix, and else
none of them is, so that a document of such tags has an empty model. -/
theorem tag_root_eq_schema_iff (hname : localPart root = "schema") (hbinds : attributes.BindsOwnPrefix root) :
    ∃ b, (start none).feed (.startTag root attributes) = .ok b ∧
      (b.builtins.tag root = .schema ↔ ∀ first ∈ attributes.schemaPrefixes.head?,
        (Builtins.ofPrefix first).nsPrefix = (PrefixedName.ofString root).nsPrefix) ∧
      ∀ events last, b.feedAll events = .ok last →
        (b.builtins.tag root = .schema →
          ∀ name, SamePrefix name root → last.builtins.tag name = .ofLocalName (localPart name)) ∧
        (b.builtins.tag root ≠ .schema → (∀ name, SamePrefix name root → last.builtins.tag name = .other) ∧
          ((∀ name attributes, .startTag name attributes ∈ events → SamePrefix name root) →
            last.model.isEmpty = true)) := by
  let builtins := Builtins.ofPrefix ((start none).detectPrefix root attributes)
  have hdetected : builtins.tag root = .schema ↔ (PrefixedName.ofString root).nsPrefix = builtins.nsPrefix := by
    by_cases hown : (PrefixedName.ofString root).nsPrefix = builtins.nsPrefix
    · simp [Builtins.tag_of_prefix_eq hown, hname, hown, Tag.ofLocalName]
    · simp [Builtins.tag_of_prefix_ne hown, hown]
  have hstart : (start none).feed (.startTag root attributes) = (start none).startRoot root attributes := rfl
  rw [startRoot, if_pos hname] at hstart
  refine ⟨_, hstart, hdetected.trans (nsPrefix_detectPrefix hbinds), fun events last hlast => ?_⟩
  have hlater : last.builtins = builtins := (builtins_of_feedAll hlast rfl).1
  rw [hlater]
  refine ⟨fun hrecognised name hsame => ?_, fun hnot => ?_⟩
  · exact Builtins.tag_of_prefix_eq (hsame.trans (hdetected.mp hrecognised))
  · have hother : ∀ name, SamePrefix name root → builtins.tag name = .other := fun name hsame =>
      Builtins.tag_of_prefix_ne fun heq => hnot (hdetected.mpr (hsame.symm.trans heq))
    refine ⟨hother, fun hall => ?_⟩
    -- After the start tag of the root nothing else is open.
    have hquiet : Quiet { start none with
        model := { Model.empty with builtins := builtins, targetNamespace := attributes.get? "targetNamespace" }
        seenRoot := true
        frames := [.node Model.root]
        openTags := [⟨root, .closeSchema⟩] } := by
      refine ⟨rfl, rfl, fun tag htag => ?_⟩
      rw [List.mem_singleton.mp htag]
      exact .inr rfl
    rw [hquiet.feedAll hlast fun name attributes hmem => hother name (hall name attributes hmem)]
    rfl

/-- A schema with one type, whose root binds the schema namespace. -/
def orderSchema (mark : String) (bindings : List String) : List Event :=
  enclosed (mark ++ "schema") (bindings.map (·, schemaNamespace)) (enclosed (mark ++ "complexType") [("name", "Order")] [])

/-- One prefix, and the root has it. -/
theorem tag_root_eq_schema_orderSchema : localPart "xs:schema" = "schema" ∧
    Attributes.BindsOwnPrefix ⟨[("xmlns:xs", schemaNamespace)]⟩ "xs:schema" ∧
    ∃ b last, (start none).feed (.startTag "xs:schema" ⟨[("xmlns:xs", schemaNamespace)]⟩) = .ok b ∧
      b.feedAll (orderSchema "xs:" ["xmlns:xs"]).tail = .ok last ∧ b.builtins.tag "xs:schema" = .schema ∧
      last.builtins.tag "xs:complexType" = .complexType ∧ last.model.isEmpty = false := by
  have hname : localPart "xs:schema" = "schema" := by decide +kernel
  have hbinds : Attributes.BindsOwnPrefix ⟨[("xmlns:xs", schemaNamespace)]⟩ "xs:schema" := by decide +kernel
  obtain ⟨b, hstart, hiff, hafter⟩ := tag_root_eq_schema_iff hname hbinds
  have hroot : b.builtins.tag "xs:schema" = .schema := hiff.mpr (by decide +kernel)
  obtain ⟨last, hlast, hfilled⟩ : ∃ last, (start none).feedAll (orderSchema "xs:" ["xmlns:xs"]) = .ok last ∧
      last.model.isEmpty = false := ⟨_, rfl, rfl⟩
  have hrest : b.feedAll (orderSchema "xs:" ["xmlns:xs"]).tail = .ok last := by
    rw [← hlast]
    exact (feedAll_cons_of_ok hstart _).symm
  have htag := (hafter _ last hrest).1 hroot "xs:complexType" (by decide +kernel)
  exact ⟨hname, hbinds, b, last, hstart, hrest, hroot, htag.trans (by decide +kernel), hfilled⟩

/-- A default declaration beside a prefix, and two prefixes: the schemas are read as empty ones. -/
theorem tag_root_ne_schema_orderSchema :
    Attributes.BindsOwnPrefix ⟨[("xmlns", schemaNamespace), ("xmlns:xs", schemaNamespace)]⟩ "schema" ∧
      (∃ m, Model.ofEvents none (orderSchema "" ["xmlns", "xmlns:xs"]) = .ok m ∧ m.builtins.tag "schema" = .other ∧
        m.isEmpty = true) ∧
      Attributes.BindsOwnPrefix ⟨[("xmlns:a", schemaNamespace), ("xmlns:xs", schemaNamespace)]⟩ "xs:schema" ∧
      ∃ m, Model.ofEvents none (orderSchema "xs:" ["xmlns:a", "xmlns:xs"]) = .ok m ∧
        m.builtins.tag "xs:schema" = .other ∧ m.isEmpty = true :=
  ⟨by decide +kernel, ⟨_, rfl, by decide +kernel, rfl⟩, by decide +kernel, _, rfl, by decide +kernel, rfl⟩

end Builder

end SchemaBinding
