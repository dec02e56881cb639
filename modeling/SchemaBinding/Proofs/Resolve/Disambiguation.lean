import Mathlib.Data.List.Forall2
import Mathlib.Data.List.Nodup
import Mathlib.Data.List.Perm.Subperm
import Mathlib.Data.List.Permutation
import SchemaBinding.Proofs.Builder.AttributeKeys
import SchemaBinding.Proofs.Resolve.AttributeNames

/-!
# `SchemaBinding.Proofs.Resolve.Disambiguation`: attributes that are named like children

An attribute that is called like a child gets the first suffix that is free (`IsFirstFree`). Whether a suffix is free
depends on the attributes before it, as they have become, and on those after it, as they still are. So the attributes of
a node are gone through in order (`Disambiguated`), and what holds in the end is shown along that way.

* `exists_isFirstFree`: a free suffix is always found.
* `renameAttribute_of_entries` is the step for one attribute, and `exists_disambiguated_forEach` are all steps for a node.
* `exists_disambiguated`: nodes are independent of each other, since a suffix changes no child and no other node.
* `disambiguateNames_separates` puts these together.

Keys of one table are different, since storing a value under a name replaces what was there. Other tables could hold
entries that no name leads to. No table of a schema that was read is one of those (`Model.IsBuilt.nodup_keys_checked`), so
what is said here holds of every schema that is resolved, and each of its attributes gets one suffix at most
(`Model.IsResolved.cleanName_of_attribute_cases`).
-/

set_option autoImplicit false

namespace SchemaBinding

/-! ### Free suffixes -/

/-- A suffix can be told from any other by its number. -/
theorem attributeSuffix_injective {i j : Nat} (h : attributeSuffix i = attributeSuffix j) : i = j := by
  have hnumber : ∀ k, Nat.ofDigitChars 10 ((attributeSuffix k).toList.drop 5) 0 = if k = 0 then 0 else k + 1 := by
    intro k
    by_cases hk : k = 0
    · subst hk
      rfl
    · rw [attributeSuffix, if_neg hk, if_neg hk, String.toList_append]
      show Nat.ofDigitChars 10 (toString (k + 1)).toList 0 = k + 1
      rw [Nat.toString_eq_repr, Nat.toList_repr]
      simp
  have hsame := (hnumber i).symm.trans ((congrArg (fun s => Nat.ofDigitChars 10 (s.toList.drop 5) 0) h).trans (hnumber j))
  split at hsame <;> split at hsame <;> omega

/-- A suffix leads to the key or to the clean name of an attribute, or to the name of a child. -/
def Taken (children : List String) (entries : List (String × AttributeDef)) (key cleanName suffix : String) : Prop :=
  key ++ suffix ∈ entries.map (·.1) ∨ cleanName ++ suffix ∈ entries.map (·.2.cleanName) ∨ cleanName ++ suffix ∈ children

theorem suffixTaken_iff {t : AttributeMap} {children : List String} {key cleanName suffix : String} :
    suffixTaken t children key cleanName suffix = true ↔ Taken children t.entries key cleanName suffix := by
  have hkeys : t.contains (key ++ suffix) = true ↔ key ++ suffix ∈ t.entries.map (·.1) := Table.contains_iff_mem_keys
  unfold suffixTaken Taken
  rw [Bool.or_eq_true, Bool.or_eq_true, hkeys, List.contains_iff_mem, or_assoc]
  simp [Table.values]

/-- The number of the first suffix that is free. -/
structure IsFirstFree (children : List String) (entries : List (String × AttributeDef)) (key cleanName : String) (i : Nat) :
    Prop where
  free : ¬ Taken children entries key cleanName (attributeSuffix i)
  first : ∀ j < i, Taken children entries key cleanName (attributeSuffix j)

/-- Each name takes one suffix at most, so one of the first ones is free. -/
theorem exists_not_taken (children : List String) (entries : List (String × AttributeDef)) (key cleanName : String) :
    ∃ i < 2 * entries.length + children.length + 1, ¬ Taken children entries key cleanName (attributeSuffix i) := by
  classical
  by_contra hnone
  push Not at hnone
  -- What takes a suffix: a key, or a clean name.
  let taker (i : Nat) : Bool × String :=
    if key ++ attributeSuffix i ∈ entries.map (·.1) then (true, key ++ attributeSuffix i)
    else (false, cleanName ++ attributeSuffix i)
  let takers : List (Bool × String) :=
    entries.map (true, ·.1) ++ (entries.map (false, ·.2.cleanName) ++ children.map (false, ·))
  have hinjective : Function.Injective taker := by
    intro i j h
    have hsame := congrArg Prod.snd h
    have hkind := congrArg Prod.fst h
    refine attributeSuffix_injective ?_
    simp only [taker] at hsame hkind
    split at hkind <;> split at hkind <;> simp_all
  have hsubset : (List.range (2 * entries.length + children.length + 1)).map taker ⊆ takers := by
    intro x hx
    obtain ⟨i, hi, rfl⟩ := List.mem_map.mp hx
    have htaken := hnone i (List.mem_range.mp hi)
    simp only [taker, takers]
    split
    · rename_i hkey
      obtain ⟨entry, hentry, heq⟩ := List.mem_map.mp hkey
      exact List.mem_append_left _ (List.mem_map.mpr ⟨entry, hentry, by rw [heq]⟩)
    · rename_i hkey
      rcases htaken.resolve_left hkey with hclean | hchild
      · obtain ⟨entry, hentry, heq⟩ := List.mem_map.mp hclean
        exact List.mem_append_right _ (List.mem_append_left _ (List.mem_map.mpr ⟨entry, hentry, by rw [heq]⟩))
      · exact List.mem_append_right _ (List.mem_append_right _ (List.mem_map_of_mem hchild))
  have hlength := (List.subperm_of_subset (List.Nodup.map hinjective List.nodup_range) hsubset).length_le
  simp [takers] at hlength
  omega

/-- The suffix that is chosen is the first one that is free. -/
theorem exists_isFirstFree (t : AttributeMap) (children : List String) (key cleanName : String) :
    ∃ i, IsFirstFree children t.entries key cleanName i ∧ freeSuffix t children key cleanName = attributeSuffix i := by
  obtain ⟨free, hlt, hfree⟩ := exists_not_taken children t.entries key cleanName
  rw [← suffixTaken_iff] at hfree
  let isFree (i : Nat) : Bool := !suffixTaken t children key cleanName (attributeSuffix i)
  cases hfound : (List.range (2 * t.size + children.length + 1)).find? isFree with
  | none =>
      have hnot := List.find?_eq_none.mp hfound free (List.mem_range.mpr hlt)
      simp [isFree, hfree] at hnot
  | some i =>
      obtain ⟨hi, -, hbefore⟩ := List.find?_range_eq_some.mp hfound
      refine ⟨i, ⟨?_, fun j hj => ?_⟩, ?_⟩
      · rw [← suffixTaken_iff]
        simpa [isFree] using hi
      · rw [← suffixTaken_iff]
        simpa [isFree] using hbefore j hj
      · show Option.getD (List.find? _ (List.map attributeSuffix _)) "" = _
        rw [List.find?_map]
        exact congrArg (fun found => (Option.map attributeSuffix found).getD "") hfound

/-! ### Attributes one after the other -/

/-- An attribute that got a suffix. -/
def suffixed (entry : String × AttributeDef) (i : Nat) : String × AttributeDef :=
  (entry.1 ++ attributeSuffix i, { entry.2 with cleanName := entry.2.cleanName ++ attributeSuffix i })

/-- The findings for an attribute that gets a suffix. -/
def suffixFindings (owner key : String) (i : Nat) : Diagnostics :=
  (if i = 0 then [] else [suffixClash owner key]) ++ [attributeRenamed owner key (key ++ attributeSuffix i)]

/-- What becomes of the attributes of a node, with the findings. The first list holds the attributes before them, as they
have become, since a suffix has to lead to a name that neither those nor the ones to come have. -/
inductive Disambiguated (children : List String) (owner : String) :
    List (String × AttributeDef) → List (String × AttributeDef) → List (String × AttributeDef) → Diagnostics → Prop where
  | nil {before : List (String × AttributeDef)} : Disambiguated children owner before [] [] []
  | kept {before rest after : List (String × AttributeDef)} {entry : String × AttributeDef} {findings : Diagnostics}
      (hapart : entry.2.cleanName ∉ children) (hrest : Disambiguated children owner (before ++ [entry]) rest after findings) :
      Disambiguated children owner before (entry :: rest) (entry :: after) findings
  | renamed {before rest after : List (String × AttributeDef)} {entry : String × AttributeDef} {findings : Diagnostics}
      {i : Nat} (hclash : entry.2.cleanName ∈ children)
      (hfirst : IsFirstFree children (before ++ entry :: rest) entry.1 entry.2.cleanName i)
      (hrest : Disambiguated children owner (before ++ [suffixed entry i]) rest after findings) :
      Disambiguated children owner before (entry :: rest) (suffixed entry i :: after)
        (suffixFindings owner entry.1 i ++ findings)

section suffixes

variable {children : List String} {owner : String} {before rest after : List (String × AttributeDef)}
  {entry : String × AttributeDef} {findings : Diagnostics} {i : Nat}

theorem IsFirstFree.key_not_mem (h : IsFirstFree children before entry.1 entry.2.cleanName i) :
    (suffixed entry i).1 ∉ before.map (·.1) := fun hkey => h.free (.inl hkey)

theorem IsFirstFree.cleanName_not_mem (h : IsFirstFree children before entry.1 entry.2.cleanName i) :
    (suffixed entry i).2.cleanName ∉ before.map (·.2.cleanName) := fun hclean => h.free (.inr (.inl hclean))

theorem IsFirstFree.apart (h : IsFirstFree children before entry.1 entry.2.cleanName i) :
    (suffixed entry i).2.cleanName ∉ children := fun hchild => h.free (.inr (.inr hchild))

/-- An entry may be replaced by one with a name that is not there. -/
theorem nodup_map_replaced {g : String × AttributeDef → String} {new : String × AttributeDef}
    (hnodup : ((before ++ entry :: rest).map g).Nodup) (hnew : g new ∉ (before ++ entry :: rest).map g) :
    ((before ++ new :: rest).map g).Nodup := by
  rw [List.map_append, List.map_cons] at hnodup hnew ⊢
  rw [List.nodup_middle, List.nodup_cons] at hnodup ⊢
  refine ⟨fun hmem => hnew ?_, hnodup.2⟩
  rcases List.mem_append.mp hmem with hmem | hmem
  · exact List.mem_append_left _ hmem
  · exact List.mem_append_right _ (List.mem_cons_of_mem _ hmem)

namespace Disambiguated

/-- No attribute is called like a child then. -/
theorem apart (h : Disambiguated children owner before rest after findings) :
    ∀ entry ∈ after, entry.2.cleanName ∉ children := by
  induction h with
  | nil => exact fun _ hentry => absurd hentry List.not_mem_nil
  | kept hapart _ ih => exact List.forall_mem_cons.mpr ⟨hapart, ih⟩
  | renamed _ hfirst _ ih => exact List.forall_mem_cons.mpr ⟨hfirst.apart, ih⟩

/-- Names stay different, if a suffix only leads to names that are not there. -/
theorem nodup {g : String × AttributeDef → String}
    (hnew : ∀ {entries entry i}, IsFirstFree children entries entry.1 entry.2.cleanName i →
      g (suffixed entry i) ∉ entries.map g)
    (h : Disambiguated children owner before rest after findings) (hnodup : ((before ++ rest).map g).Nodup) :
    ((before ++ after).map g).Nodup := by
  induction h with
  | nil => exact hnodup
  | kept _ _ ih =>
      rw [List.append_cons] at hnodup ⊢
      exact ih hnodup
  | renamed _ hfirst _ ih =>
      rw [List.append_cons]
      refine ih ?_
      rw [← List.append_cons]
      exact nodup_map_replaced hnodup (hnew hfirst)

/-- An attribute that is not called like a child stays as it is. Of the others only the key and the clean name change. -/
theorem forall₂ (h : Disambiguated children owner before rest after findings) :
    List.Forall₂ (fun old new => if old.2.cleanName ∈ children then ∃ i, new = suffixed old i else new = old) rest after := by
  induction h with
  | nil => exact .nil
  | kept hapart _ ih => exact .cons (by rw [if_neg hapart]) ih
  | @renamed _ _ _ _ _ i hclash _ _ ih => exact .cons (by rw [if_pos hclash]; exact ⟨i, rfl⟩) ih

/-- Each attribute that was called like a child is told of once, with its old key and its new one. -/
theorem told (h : Disambiguated children owner before rest after findings) :
    findings.filter (·.severity = .info) =
      ((rest.zip after).filter (·.1.2.cleanName ∈ children)).map fun pair => attributeRenamed owner pair.1.1 pair.2.1 := by
  induction h with
  | nil => rfl
  | kept hapart _ ih => rw [ih, List.zip_cons_cons, List.filter_cons_of_neg (by simpa using hapart)]
  | @renamed _ _ _ entry _ i hclash _ _ ih =>
      have hfirst : (suffixFindings owner entry.1 i).filter (·.severity = .info) =
          [attributeRenamed owner entry.1 (suffixed entry i).1] := by
        unfold suffixFindings
        by_cases hi : i = 0 <;> simp [hi, suffixClash, attributeRenamed, Diagnostics.warning, Diagnostics.info, suffixed]
      rw [List.filter_append, hfirst, ih, List.zip_cons_cons, List.filter_cons_of_pos (by simpa using hclash)]
      rfl

end Disambiguated

end suffixes

/-! ### One node -/

/-- A node with other attributes. -/
def Node.withAttributes (n : Node) (entries : List (String × AttributeDef)) : Node := { n with attributes := ⟨entries⟩ }

@[simp]
theorem Node.attributes_withAttributes (n : Node) (entries : List (String × AttributeDef)) :
    (n.withAttributes entries).attributes = ⟨entries⟩ := rfl

@[simp]
theorem Node.name_withAttributes (n : Node) (entries : List (String × AttributeDef)) :
    (n.withAttributes entries).name = n.name := rfl

/-- The first entry is taken in first. -/
theorem Resolved.forEach_cons {α : Type} (m : Model) (entry : α) (rest : List α) (step : Model → α → Resolved) :
    forEach m (entry :: rest) step = (step m entry).andThen fun next => forEach next rest step := by
  have hfrom : ∀ (entries : List α) (r : Resolved), entries.foldl (fun r entry => r.andThen (step · entry)) r =
      r.andThen fun next => forEach next entries step := by
    intro entries
    induction entries with
    | nil => exact fun r => by simp [andThen, forEach]
    | cons other entries ih =>
        intro r
        show entries.foldl _ (r.andThen (step · other)) = r.andThen fun next => entries.foldl _ ((⟨next, []⟩ : Resolved).andThen _)
        rw [ih]
        simp only [ih]
        simp [andThen]
  show rest.foldl _ ((⟨m, []⟩ : Resolved).andThen (step · entry)) = _
  rw [hfrom]
  simp [andThen]

section node

variable {m : Model} {id : NodeId} {children : List String} {before rest : List (String × AttributeDef)}
  {entry : String × AttributeDef}

/-- An attribute gets the first suffix that is free. -/
theorem renameAttribute_of_entries (children : List String)
    (hentries : (m.node id).attributes.entries = before ++ entry :: rest) (hbefore : entry.1 ∉ before.map (·.1)) :
    ∃ i, IsFirstFree children (before ++ entry :: rest) entry.1 entry.2.cleanName i ∧
      renameAttribute children m id entry.1 =
        ⟨m.modifyNode id (·.withAttributes (before ++ suffixed entry i :: rest)),
          suffixFindings (m.node id).name entry.1 i⟩ := by
  obtain ⟨i, hfirst, hsuffix⟩ := exists_isFirstFree (m.node id).attributes children entry.1 entry.2.cleanName
  rw [hentries] at hfirst
  refine ⟨i, hfirst, ?_⟩
  have hget : (m.node id).attributes.get? entry.1 = some entry.2 :=
    Table.get?_of_entries_eq hentries hbefore
  have hnew : entry.1 ++ attributeSuffix i ∉ (before ++ entry :: rest).map (·.1) := hfirst.key_not_mem
  have hrename : (m.node id).attributes.rename? entry.1 (entry.1 ++ attributeSuffix i) =
      some ⟨before ++ (entry.1 ++ attributeSuffix i, entry.2) :: rest⟩ := by
    have hfree : ¬ (m.node id).attributes.Has (entry.1 ++ attributeSuffix i) := by
      rwa [Table.has_iff_mem_keys, Table.keys, hentries]
    rw [Table.rename?_eq_some_iff.mpr ⟨⟨entry.2, hget⟩, hfree, rfl⟩, hentries, Table.modifyFirst_append hbefore]
  have hclash : (if attributeSuffix i = attributeSuffix 0 then [] else [suffixClash (m.node id).name entry.1]) =
      if i = 0 then [] else [suffixClash (m.node id).name entry.1] := by
    by_cases hi : i = 0
    · rw [hi, if_pos rfl, if_pos rfl]
    · rw [if_neg hi, if_neg fun h => hi (attributeSuffix_injective h)]
  have hmodify : Table.modify ⟨before ++ (entry.1 ++ attributeSuffix i, entry.2) :: rest⟩ (entry.1 ++ attributeSuffix i)
      (fun d => { d with cleanName := d.cleanName ++ attributeSuffix i }) = ⟨before ++ suffixed entry i :: rest⟩ := by
    rw [List.map_append, List.mem_append, not_or] at hnew
    rw [Table.modify, Table.modifyFirst_append hnew.1]
    rfl
  unfold renameAttribute
  simp only [hget, hsuffix, hrename, hclash, hmodify]
  rfl

/-- The attributes of a node that are called like children are renamed one after the other. -/
theorem exists_disambiguated_forEach (children : List String) (hid : m.Holds id)
    (hentries : (m.node id).attributes.entries = before ++ rest) (hkeys : ((before ++ rest).map (·.1)).Nodup) :
    ∃ after model findings,
      Resolved.forEach m ((rest.filter fun entry => children.contains entry.2.cleanName).map (·.1))
        (fun m key => renameAttribute children m id key) = ⟨model, findings⟩ ∧
      (model.node id).attributes.entries = before ++ after ∧
      Disambiguated children (m.node id).name before rest after findings := by
  -- By induction on the attributes to come. Those before are as the steps so far have left them.
  induction rest generalizing m before with
  | nil => exact ⟨[], m, [], rfl, hentries, .nil⟩
  | cons entry rest ih =>
      have hbefore : entry.1 ∉ before.map (·.1) := by
        rw [List.map_append, List.map_cons, List.nodup_middle, List.nodup_cons, List.mem_append, not_or] at hkeys
        exact hkeys.1.1
      by_cases hclash : entry.2.cleanName ∈ children
      · obtain ⟨i, hfirst, hrename⟩ := renameAttribute_of_entries children hentries hbefore
        let next := m.modifyNode id (·.withAttributes (before ++ suffixed entry i :: rest))
        have hnode : next.node id = (m.node id).withAttributes (before ++ suffixed entry i :: rest) := by
          rw [Model.node_modifyNode, if_pos ⟨rfl, hid⟩]
        have hnodup := nodup_map_replaced hkeys hfirst.key_not_mem
        rw [List.append_cons] at hnodup
        obtain ⟨after, model, findings, hresult, hafter, hrest⟩ := ih (m := next)
          ((Model.holds_modifyNode ..).mpr hid) (by rw [hnode]; exact List.append_cons ..) hnodup
        rw [hnode, Node.name_withAttributes] at hrest
        refine ⟨suffixed entry i :: after, model, suffixFindings (m.node id).name entry.1 i ++ findings, ?_,
          hafter.trans (List.append_cons ..).symm, .renamed hclash hfirst hrest⟩
        rw [List.filter_cons_of_pos (by simpa using hclash), List.map_cons, Resolved.forEach_cons, hrename]
        show Resolved.andThen ⟨next, _⟩ _ = _
        rw [Resolved.andThen, hresult]
      · rw [List.append_cons] at hentries hkeys
        obtain ⟨after, model, findings, hresult, hafter, hrest⟩ := ih hid hentries hkeys
        rw [List.filter_cons_of_neg (by simpa using hclash)]
        exact ⟨entry :: after, model, findings, hresult, hafter.trans (List.append_cons ..).symm, .kept hclash hrest⟩

theorem disambiguated_disambiguateNode (hid : m.Holds id) (hkeys : (m.node id).attributes.keys.Nodup) :
    Disambiguated (childNames m (m.extensionChain id).nodes) (m.node id).name [] (m.node id).attributes.entries
      ((disambiguateNode m id).model.node id).attributes.entries (disambiguateNode m id).findings := by
  obtain ⟨after, model, findings, hresult, hafter, hall⟩ :=
    exists_disambiguated_forEach (childNames m (m.extensionChain id).nodes) hid (List.nil_append _).symm hkeys
  rw [List.nil_append] at hafter
  have hnode : disambiguateNode m id = ⟨model, findings⟩ := hresult
  rw [hnode]
  exact hafter ▸ hall

end node

/-! ### All nodes -/

theorem node_foldl_disambiguateNode_of_not_mem (m : Model) {ids : List NodeId} {x : NodeId} (hx : x ∉ ids) :
    (Resolved.forEach m ids disambiguateNode).model.node x = m.node x := by
  induction ids generalizing m with
  | nil => rfl
  | cons id rest ih =>
      rw [List.mem_cons, not_or] at hx
      rw [Resolved.forEach_cons]
      exact (ih (disambiguateNode m id).model hx.2).trans (node_disambiguateNode_of_ne m hx.1)

/-- Each node is disambiguated for itself, and the findings are those for all nodes in order. -/
theorem exists_disambiguated (m : Model) {ids : List NodeId} (hnodup : ids.Nodup)
    (hids : ∀ id ∈ ids, m.Holds id ∧ (m.node id).attributes.keys.Nodup) :
    let result := Resolved.forEach m ids disambiguateNode
    ∃ reports : List Diagnostics, result.findings = reports.flatten ∧
      List.Forall₂ (fun id report =>
        Disambiguated (childNames m (m.extensionChain id).nodes) (m.node id).name [] (m.node id).attributes.entries
          (result.model.node id).attributes.entries report) ids reports := by
  induction ids generalizing m with
  | nil => exact ⟨[], rfl, .nil⟩
  | cons id rest ih =>
      rw [List.nodup_cons] at hnodup
      rw [List.forall_mem_cons] at hids
      let next := (disambiguateNode m id).model
      have hkeep : Model.Keeps (fun n => (n.cleanName, n.children, n.base)) Symbols.elements m next :=
        keeps_disambiguateNode (fun _ _ => rfl) m id
      -- The nodes that come later are as they were.
      have hlater : ∀ x ∈ rest, next.node x = m.node x := fun x hx =>
        node_disambiguateNode_of_ne m fun heq => hnodup.1 (heq ▸ hx)
      obtain ⟨reports, hfindings, hreports⟩ := ih next hnodup.2 fun x hx =>
        ⟨(hkeep.holds_iff x).mpr (hids.2 x hx).1, by rw [hlater x hx]; exact (hids.2 x hx).2⟩
      have hself := node_foldl_disambiguateNode_of_not_mem next hnodup.1
      rw [Resolved.forEach_cons]
      refine ⟨(disambiguateNode m id).findings :: reports, ?_, .cons ?_ ?_⟩
      · exact congrArg ((disambiguateNode m id).findings ++ ·) hfindings
      · show Disambiguated _ _ _ _ ((Resolved.forEach next rest disambiguateNode).model.node id).attributes.entries _
        rw [hself]
        exact disambiguated_disambiguateNode hids.1.1 hids.1.2
      · refine ((List.forall₂_and_left rest reports).mpr ⟨hlater, hreports⟩).imp ?_
        rintro x report ⟨hx, hdone⟩
        rwa [childNames_congr hkeep, hx] at hdone

/-- The attributes of a node before the pass, the node after it, and the findings for the node. -/
structure NamesSeparated (before after : Model) (id : NodeId) (report : Diagnostics) : Prop where
  /-- The pass does not change what children are called. -/
  children : childNames after (after.extensionChain id).nodes = childNames before (before.extensionChain id).nodes
  /-- Which suffix each attribute gets, if any, and what is found on the way. -/
  suffixes : Disambiguated (childNames before (before.extensionChain id).nodes) (before.node id).name []
    (before.node id).attributes.entries (after.node id).attributes.entries report
  /-- No attribute is called like a child, own or inherited. -/
  apart : ∀ d ∈ (after.node id).attributes.values, d.cleanName ∉ childNames after (after.extensionChain id).nodes
  keys : (after.node id).attributes.keys.Nodup
  cleanNames : ((before.node id).attributes.values.map (·.cleanName)).Nodup →
    ((after.node id).attributes.values.map (·.cleanName)).Nodup
  /-- The attributes are the same ones in the same order. Those that are called like a child have a suffix, and nothing
  else has changed. -/
  attributes : List.Forall₂
    (fun old new => if old.2.cleanName ∈ childNames before (before.extensionChain id).nodes then ∃ i, new = suffixed old i
      else new = old)
    (before.node id).attributes.entries (after.node id).attributes.entries
  /-- Each of those is told of once. -/
  told : report.filter (·.severity = .info) =
    (((before.node id).attributes.entries.zip (after.node id).attributes.entries).filter
      (·.1.2.cleanName ∈ childNames before (before.extensionChain id).nodes)).map
        fun pair => attributeRenamed (before.node id).name pair.1.1 pair.2.1

/-- **Attributes apart from children.** When the attributes of each declaration have different keys, then after the pass
no attribute is called like a child of its declaration or of what that extends, and keys are still different, as are
clean names if they were. An attribute that was called like a child got the first suffix that was free, and is told of
once; all others stay as they are. The findings are those for the declarations in order. -/
theorem disambiguateNames_separates {m : Model} (hkeys : ∀ id ∈ m.declarations, (m.node id).attributes.keys.Nodup) :
    ∃ reports : List Diagnostics, (disambiguateNames m).findings = reports.flatten ∧
      List.Forall₂ (NamesSeparated m (disambiguateNames m).model) m.declarations reports := by
  obtain ⟨reports, hfindings, hreports⟩ := exists_disambiguated m m.nodup_declarations fun id hid =>
    ⟨Model.holds_of_mem_declarations hid, hkeys id hid⟩
  refine ⟨reports, hfindings, ((List.forall₂_and_left _ _).mpr ⟨hkeys, hreports⟩).imp ?_⟩
  rintro id report ⟨hid, hdone⟩
  have hchildren : childNames (disambiguateNames m).model ((disambiguateNames m).model.extensionChain id).nodes =
      childNames m (m.extensionChain id).nodes := childNames_congr (keeps_disambiguateNames (fun _ _ => rfl) m) id
  have hdone : Disambiguated (childNames m (m.extensionChain id).nodes) (m.node id).name [] (m.node id).attributes.entries
    ((disambiguateNames m).model.node id).attributes.entries report := hdone
  refine ⟨hchildren, hdone, ?_, ?_, ?_, hdone.forall₂, hdone.told⟩
  · intro d hd
    obtain ⟨entry, hentry, rfl⟩ := List.mem_map.mp hd
    rw [hchildren]
    exact hdone.apart entry hentry
  · exact hdone.nodup IsFirstFree.key_not_mem hid
  · unfold Table.values
    rw [List.map_map, List.map_map]
    exact hdone.nodup IsFirstFree.cleanName_not_mem

/-- A type with a child and an attribute of one name, where another attribute has the name with the first suffix. -/
def takenSuffix : Model :=
  { nodes := #[{ Node.ofKind .schema "schema" with children := [⟨1⟩] },
      { Node.ofKind .complexType "Item" with
        children := [⟨2⟩]
        attributes := .ofList [("id", .declared "id" "xs:ID"), ("id_attr", .declared "id_attr" "xs:string")] },
      Node.ofKind .element "id"] }

theorem disambiguateNames_separates_takenSuffix :
    (∀ id ∈ takenSuffix.declarations, (takenSuffix.node id).attributes.keys.Nodup) ∧
      ∃ reports : List Diagnostics, (disambiguateNames takenSuffix).findings = reports.flatten ∧
        List.Forall₂ (NamesSeparated takenSuffix (disambiguateNames takenSuffix).model) takenSuffix.declarations reports := by
  have hids : takenSuffix.declarations = [⟨1⟩, ⟨2⟩] := by cbv
  have hkeys : ∀ id ∈ takenSuffix.declarations, (takenSuffix.node id).attributes.keys.Nodup := by
    rw [hids]
    decide
  exact ⟨hkeys, disambiguateNames_separates hkeys⟩

set_option maxRecDepth 20000 in
/-- The attribute gets the second suffix, and the other one keeps its name. -/
example : ((disambiguateNames takenSuffix).model.node ⟨1⟩).attributes.keys = ["id_attr2", "id_attr"] := by cbv

/-! ### Schemas that were read -/

section keys

variable {β : Type} {known : Symbols → β}

theorem keeps_keys_resolveDeclaration (m : Model) (id : NodeId) :
    Model.Keeps (fun n => n.attributes.keys) known m (resolveDeclaration m id).model := by
  have hattributes : ∀ m : Model, Model.Keeps (fun n => n.attributes.keys) known m (resolveAttributes m id).model := by
    intro m
    refine .modifyNode_of_eq m id ?_
    simp [Table.keys]
  have hresolution : ∀ r collapse n, (applyResolution r collapse n).attributes.keys = n.attributes.keys :=
    fun _ _ _ => rfl
  exact (Model.Keeps.modifyNode m id fun n => hresolution _ _ n).trans (hattributes _)

/-- The keys are settled when attribute groups are expanded, until the first suffix. -/
theorem keeps_keys_checked (names : NameTable) (m : Model) :
    Model.Keeps (fun n => n.attributes.keys) (fun _ => ()) (Stage.collected m) (Stage.checked names m) :=
  ((keeps_registerSymbols names (fun _ => Table.keys_map _ _) (fun _ _ _ => rfl) _).trans
    (keeps_forEach keeps_keys_resolveDeclaration _ _)).trans (keeps_checkMixedChains (fun _ _ _ => rfl) _)

/-- A schema that was read has different keys in each table when its attributes are to get suffixes. -/
theorem Model.IsBuilt.nodup_keys_checked {m : Model} (h : m.IsBuilt) (names : NameTable) (id : NodeId) :
    ((Stage.checked names m).node id).attributes.keys.Nodup := by
  rw [(keeps_keys_checked names m).node id]
  have hflat : ∀ x, ((Stage.flat m).node x).attributes.keys.Nodup := by
    intro x
    have hkeep : Model.Keeps (fun n => n.attributes.keys) (fun _ => ()) m (Stage.flat m) :=
      keeps_flattenGroups (fun _ _ => rfl) m
    rw [hkeep.node x]
    exact h.tablesApart.nodes x
  -- What comes from attribute groups is stored under its key, too.
  unfold Stage.collected expandAttributeGroups
  rw [model_forEach]
  refine List.foldlRecOn (Stage.flat m).preorder (fun m id => (expandAttributeRefs m id).model)
    (motive := fun current => ∀ x, (current.node x).attributes.keys.Nodup) hflat (fun current hcurrent owner _ x => ?_) id
  change ((current.modifyNode owner _).node x).attributes.keys.Nodup
  rw [node_modifyNode]
  split
  · exact Table.nodup_keys_insertAll (hcurrent x) _
  · exact hcurrent x

end keys

/-- An attribute of a declaration has the clean name of its name, or that name with one suffix. -/
theorem Model.IsResolved.cleanName_of_attribute_cases {names : NameTable} {r : Model} (h : r.IsResolved names) {id : NodeId}
    (hid : id ∈ r.declarations) : ∀ d ∈ (r.node id).attributes.values,
      d.cleanName = names.clean d.name ∨ ∃ i, d.cleanName = names.clean d.name ++ attributeSuffix i := by
  obtain ⟨m, hbuilt, rfl⟩ := h
  rw [declarations_resolve] at hid
  have hlater : Keeps (fun n => (n.kind, n.children)) (fun _ => ()) (Stage.collected m) (Stage.checked names m) :=
    ((keeps_registerSymbols names (fun _ => rfl) (fun _ _ _ => rfl) _).trans
      (keeps_resolveTypes (fun _ _ _ => rfl) (fun _ _ => rfl) _)).trans (keeps_checkMixedChains (fun _ _ _ => rfl) _)
  have hchecked : id ∈ (Stage.checked names m).declarations := hlater.declarations_eq ▸ hid
  obtain ⟨reports, -, hreports⟩ := exists_disambiguated (Stage.checked names m) (nodup_declarations _) fun id hid =>
    ⟨holds_of_mem_declarations hid, hbuilt.nodup_keys_checked names id⟩
  obtain ⟨report, -, hdone⟩ := (exists_mem_of_forall₂ hreports).1 id hchecked
  have hmarked : Keeps Node.attributes (fun _ => ()) (Stage.unmarked names m) (resolve names m).model :=
    keeps_markExtended (fun _ => rfl) _
  intro d hd
  rw [hmarked.node] at hd
  obtain ⟨new, hnew, rfl⟩ := List.mem_map.mp hd
  obtain ⟨old, hold, hbecomes⟩ := (exists_mem_of_forall₂ hdone.forall₂).2 new hnew
  have hclean : old.2.cleanName = names.clean old.2.name := cleanName_checked names hid old.2 (List.mem_map_of_mem hold)
  split at hbecomes
  · obtain ⟨i, rfl⟩ := hbecomes
    exact .inr ⟨i, congrArg (· ++ attributeSuffix i) hclean⟩
  · subst hbecomes
    exact .inl hclean

end SchemaBinding
