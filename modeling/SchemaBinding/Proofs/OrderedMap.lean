import Mathlib.Data.List.Induction
import Mathlib.Data.List.Nodup
import Mathlib.Logic.Function.Basic
import SchemaBinding.Proofs.Table

/-!
# `SchemaBinding.Proofs.OrderedMap`: tables are ordered maps

A table is a list that is searched from the front, and nothing in its type keeps two entries from having one name. What it
stands for is an `OrderedMap`: different names in an order, and a value for each. Here a table that is empty at first is
changed in every way that its operations allow (`Table.Edit`), and an ordered map by rules that know of no list of entries
(`OrderedMap.edit`).

* `Table.Replaced` is what an operation does to a name that is there: one entry takes the place of another. What is found
  then depends on names being different (`Replaced.get?_eq`).
* `Table.effect_edit` says what one operation does to any table.
* `Table.Represents.edit` says that a table goes on to stand for its map, and `Table.edited_orderedMap` is the run.
-/

set_option autoImplicit false

namespace SchemaBinding

/-- One change of a table. -/
inductive Table.Edit (α : Type) where
  | insert (key : String) (value : α)
  | rename (old new : String)
  /-- The value under a name is changed. -/
  | modify (key : String) (f : α → α)
  | modifyLast (f : α → α)
  /-- All values are changed in the same way. -/
  | map (f : α → α)
  /-- Each value is changed in a way of its own, by its place. -/
  | modifyEach (f : Nat → α → α)

/-! ### Ordered maps -/

/-- Different names in an order, each with a value. -/
structure OrderedMap (α : Type) where
  order : List String
  value? : String → Option α
  nodup : order.Nodup
  isSome_iff : ∀ key, (value? key).isSome = true ↔ key ∈ order

namespace OrderedMap

/-- The names, with another one in the place of one of them. -/
def renamed (old new : String) (names : List String) : List String :=
  names.map fun name => if name = old then new else name

section renamed

variable {old new : String} {names : List String}

theorem mem_renamed_iff (hold : old ∈ names) {name : String} :
    name ∈ renamed old new names ↔ name = new ∨ name ≠ old ∧ name ∈ names := by
  unfold renamed
  rw [List.mem_map]
  constructor
  · rintro ⟨source, hsource, rfl⟩
    by_cases h : source = old
    · exact .inl (if_pos h)
    · rw [if_neg h]
      exact .inr ⟨h, hsource⟩
  · rintro (rfl | ⟨hne, hname⟩)
    · exact ⟨old, hold, if_pos rfl⟩
    · exact ⟨name, hname, if_neg hne⟩

theorem nodup_renamed (hnodup : names.Nodup) (hnew : new ∉ names) : (renamed old new names).Nodup := by
  refine hnodup.map_on fun x hx y hy hsame => ?_
  by_cases hxo : x = old
  · by_cases hyo : y = old
    · exact hxo.trans hyo.symm
    · rw [if_pos hxo, if_neg hyo] at hsame
      exact absurd (hsame ▸ hy) hnew
  · by_cases hyo : y = old
    · rw [if_neg hxo, if_pos hyo] at hsame
      exact absurd (hsame ▸ hx) hnew
    · rwa [if_neg hxo, if_neg hyo] at hsame

/-- Nothing happens to a list without the name, and nothing when the new name is the old one. -/
theorem renamed_eq_self (h : old ∈ names → new = old) : renamed old new names = names := by
  refine (List.map_congr_left fun name hname => ?_).trans (List.map_id names)
  split
  · rename_i heq
    exact (h (heq ▸ hname)).trans heq.symm
  · rfl

end renamed

variable {α : Type}

theorem value?_eq_none_iff {m : OrderedMap α} {key : String} : m.value? key = none ↔ key ∉ m.order := by
  rw [← m.isSome_iff, Option.not_isSome_iff_eq_none]

instance : EmptyCollection (OrderedMap α) where
  emptyCollection :=
    { order := []
      value? := fun _ => none
      nodup := List.nodup_nil
      isSome_iff := by simp }

/-- A new name stands last, and one that is there keeps its place. -/
def insert (m : OrderedMap α) (key : String) (value : α) : OrderedMap α where
  order := if key ∈ m.order then m.order else m.order ++ [key]
  value? := Function.update m.value? key (some value)
  nodup := by
    split
    · exact m.nodup
    · rename_i hnew
      exact List.nodup_append'.mpr ⟨m.nodup, List.nodup_singleton key, by simpa using hnew⟩
  isSome_iff k := by
    rw [Function.update_apply]
    by_cases hk : k = key
    · subst hk
      by_cases hkey : k ∈ m.order <;> simp [hkey]
    · by_cases hkey : key ∈ m.order <;> simp [hk, hkey, m.isSome_iff]

/-- A name gives its place and its value to a new one. -/
def rename (m : OrderedMap α) (old new : String) (hold : old ∈ m.order) (hnew : new ∉ m.order) : OrderedMap α where
  order := renamed old new m.order
  value? := Function.update (Function.update m.value? old none) new (m.value? old)
  nodup := nodup_renamed m.nodup hnew
  isSome_iff k := by
    rw [mem_renamed_iff hold, Function.update_apply, Function.update_apply]
    by_cases hk : k = new
    · simp [hk, m.isSome_iff, hold]
    · rw [if_neg hk]
      by_cases hko : k = old
      · simp [hko, show old ≠ new from hko ▸ hk]
      · simp [hk, hko, m.isSome_iff]

/-- Each value is changed in a way that depends on its name. -/
def change (m : OrderedMap α) (f : String → α → α) : OrderedMap α where
  order := m.order
  value? key := (m.value? key).map (f key)
  nodup := m.nodup
  isSome_iff key := by rw [Option.isSome_map, m.isSome_iff]

/-- The rule for each change. Only a name that is free can be given. -/
def edit (m : OrderedMap α) : Table.Edit α → OrderedMap α
  | .insert key value => m.insert key value
  | .rename old new => if h : old ∈ m.order ∧ new ∉ m.order then m.rename old new h.1 h.2 else m
  | .modify key f => m.change fun k => if k = key then f else id
  | .modifyLast f => m.change fun k => if m.order.getLast? = some k then f else id
  | .map f => m.change fun _ => f
  | .modifyEach f => m.change fun k => f (m.order.idxOf k)

/-- What the empty map has become. -/
def edited (history : List (Table.Edit α)) : OrderedMap α := history.foldl edit ∅

theorem edited_concat (history : List (Table.Edit α)) (e : Table.Edit α) :
    edited (history ++ [e]) = (edited history).edit e :=
  List.foldl_concat ..

end OrderedMap

namespace Table

variable {α : Type}

/-! ### Changes of tables -/

/-- Changes each value by its place. -/
def modifyEach (t : Table α) (f : Nat → α → α) : Table α :=
  ⟨t.entries.mapIdx fun i entry => (entry.1, f i entry.2)⟩

/-- A table after one change. It stays as it is when another name cannot be given. -/
def edit (t : Table α) : Edit α → Table α
  | .insert key value => t.insert key value
  | .rename old new => (t.rename? old new).getD t
  | .modify key f => t.modify key f
  | .modifyLast f => t.modifyLast f
  | .map f => t.map f
  | .modifyEach f => t.modifyEach f

/-- What the empty table has become. -/
def edited (history : List (Edit α)) : Table α := history.foldl edit ∅

theorem edited_concat (history : List (Edit α)) (e : Edit α) : edited (history ++ [e]) = (edited history).edit e :=
  List.foldl_concat ..

@[simp]
theorem keys_modifyEach (t : Table α) (f : Nat → α → α) : (t.modifyEach f).keys = t.keys :=
  List.ext_getElem (by simp [keys, modifyEach]) (by simp [keys, modifyEach])

theorem values_modifyEach (t : Table α) (f : Nat → α → α) : (t.modifyEach f).values = t.values.mapIdx f :=
  List.ext_getElem (by simp [values, modifyEach]) (by simp [values, modifyEach])

theorem map_eq_modifyEach (t : Table α) (f : α → α) : t.map f = t.modifyEach fun _ => f :=
  congrArg Table.mk (List.ext_getElem (by simp) (by simp))

/-- The place of a value is that of its name. -/
theorem get?_modifyEach (t : Table α) (f : Nat → α → α) (key : String) :
    (t.modifyEach f).get? key = (t.get? key).map (f (t.keys.idxOf key)) := by
  unfold get? modifyEach keys
  generalize t.entries = entries
  -- Each entry in front moves the place by one, so the change is another one for the rest.
  induction entries generalizing f with
  | nil => rfl
  | cons entry rest ih =>
      dsimp only at ih ⊢
      rw [List.mapIdx_cons, List.map_cons]
      by_cases hkey : entry.1 = key
      · rw [List.find?_cons_of_pos (by simpa using hkey), List.find?_cons_of_pos (by simpa using hkey), hkey,
          List.idxOf_cons_self]
        rfl
      · rw [List.find?_cons_of_neg (by simpa using hkey), List.find?_cons_of_neg (by simpa using hkey),
          List.idxOf_cons_ne _ hkey, ih]

/-! ### One entry in the place of another -/

/-- One entry has taken the place of another, and nothing else has changed. -/
def Replaced (t : Table α) (old new : String × α) (t' : Table α) : Prop :=
  ∃ before after, t.entries = before ++ old :: after ∧ t'.entries = before ++ new :: after

/-- The first entry with a name is the one that is changed. -/
theorem replaced_modifyFirst {t : Table α} {key : String} (h : t.Has key) (f : String × α → String × α) :
    ∃ value, t.Replaced (key, value) (f (key, value)) ⟨modifyFirst key f t.entries⟩ := by
  obtain ⟨value, hvalue⟩ := h
  rw [get?, Option.map_eq_some_iff] at hvalue
  obtain ⟨⟨name, found⟩, hfind, rfl⟩ := hvalue
  obtain ⟨hkey, before, after, hentries, hbefore⟩ := List.find?_eq_some_iff_append.mp hfind
  obtain rfl : name = key := beq_iff_eq.mp hkey
  have hfirst : name ∉ before.map (·.1) := by
    intro hmem
    obtain ⟨entry, hentry, hname⟩ := List.mem_map.mp hmem
    simpa [hname] using hbefore entry hentry
  exact ⟨found, before, after, hentries, by rw [hentries, modifyFirst_append hfirst]⟩

namespace Replaced

variable {t t' : Table α} {old new : String × α}

/-- Where names are different, the entry is the only one of its name. -/
theorem exists_split (h : t.Replaced old new t') (hnodup : t.keys.Nodup) :
    ∃ before after, t.entries = before ++ old :: after ∧ t'.entries = before ++ new :: after ∧
      old.1 ∉ before.map (·.1) ∧ old.1 ∉ after.map (·.1) := by
  obtain ⟨before, after, hentries, hentries'⟩ := h
  rw [keys, hentries, List.map_append, List.map_cons, List.nodup_middle, List.nodup_cons, List.mem_append, not_or] at hnodup
  exact ⟨before, after, hentries, hentries', hnodup.1⟩

theorem keys_eq (h : t.Replaced old new t') (hnodup : t.keys.Nodup) :
    t'.keys = OrderedMap.renamed old.1 new.1 t.keys := by
  obtain ⟨before, after, hentries, hentries', hbefore, hafter⟩ := h.exists_split hnodup
  have hmiddle : OrderedMap.renamed old.1 new.1 (before.map (·.1) ++ old.1 :: after.map (·.1)) =
      OrderedMap.renamed old.1 new.1 (before.map (·.1)) ++ new.1 :: OrderedMap.renamed old.1 new.1 (after.map (·.1)) := by
    simp [OrderedMap.renamed]
  rw [keys, keys, hentries, hentries', List.map_append, List.map_append, List.map_cons, List.map_cons, hmiddle,
    OrderedMap.renamed_eq_self fun hmem => absurd hmem hbefore, OrderedMap.renamed_eq_self fun hmem => absurd hmem hafter]

theorem get?_old (h : t.Replaced old new t') (hnodup : t.keys.Nodup) : t.get? old.1 = some old.2 := by
  obtain ⟨before, after, hentries, -, hbefore, -⟩ := h.exists_split hnodup
  exact get?_of_entries_eq hentries hbefore

/-- The new value is found under the new name, and nothing under the old one if that is another. -/
theorem get?_eq (h : t.Replaced old new t') (hnodup : t.keys.Nodup) (hnew : new.1 = old.1 ∨ new.1 ∉ t.keys)
    (key : String) : t'.get? key = if key = new.1 then some new.2 else if key = old.1 then none else t.get? key := by
  obtain ⟨before, after, hentries, hentries', hbefore, hafter⟩ := h.exists_split hnodup
  have hskip : ∀ {entry : String × α}, key ≠ entry.1 →
      (before ++ entry :: after).find? (·.1 == key) = (before ++ after).find? (·.1 == key) := by
    intro entry hne
    rw [List.find?_append, List.find?_append, List.find?_cons_of_neg (by simpa using hne.symm)]
  by_cases hkey : key = new.1
  · have hfirst : new.1 ∉ before.map (·.1) := by
      rcases hnew with heq | hnot
      · exact heq ▸ hbefore
      · rw [keys, hentries, List.map_append] at hnot
        exact fun hmem => hnot (List.mem_append_left _ hmem)
    rw [if_pos hkey, hkey, get?_of_entries_eq hentries' hfirst]
  · rw [if_neg hkey, get?, hentries', hskip hkey]
    by_cases hold : key = old.1
    · rw [if_pos hold, hold, Option.map_eq_none_iff, List.find?_eq_none]
      intro entry hentry heq
      have hmem : old.1 ∈ (before ++ after).map (·.1) := List.mem_map.mpr ⟨entry, hentry, beq_iff_eq.mp heq⟩
      rw [List.map_append, List.mem_append] at hmem
      exact hmem.elim hbefore hafter
    · rw [if_neg hold, get?, hentries, hskip hold]

end Replaced

/-! ### What a change does -/

/-- What a change is to do. A new name stands last, and a value is replaced in its place. Another name is given exactly
where the old one is there and the new one is not; it has the place and the value of the old one. -/
def Edit.Effect : Edit α → Table α → Table α → Prop
  | .insert key value, t, t' =>
      (¬ t.Has key → t'.entries = t.entries ++ [(key, value)]) ∧
        (t.Has key → ∃ old, t.Replaced (key, old) (key, value) t')
  | .rename old new, t, t' =>
      ((t.rename? old new).isSome = true ↔ t.Has old ∧ ¬ t.Has new) ∧
        ((t.rename? old new).isSome = true → ∃ value, t.Replaced (old, value) (new, value) t') ∧
        (t.rename? old new = none → t' = t)
  | .modify key f, t, t' =>
      (t.Has key → ∃ value, t.Replaced (key, value) (key, f value) t') ∧ (¬ t.Has key → t' = t)
  | .modifyLast f, t, t' =>
      (∀ before key value, t.entries = before ++ [(key, value)] → t'.entries = before ++ [(key, f value)]) ∧
        (t.entries = [] → t' = t)
  | .map f, t, t' => t'.keys = t.keys ∧ t'.values = t.values.map f
  | .modifyEach f, t, t' => t'.keys = t.keys ∧ t'.values = t.values.mapIdx f

theorem effect_edit (t : Table α) (e : Edit α) : e.Effect t (t.edit e) := by
  cases e with
  | insert key value =>
      refine ⟨fun hnew => ?_, fun hkey => ?_⟩
      · show (t.insert key value).entries = _
        rw [insert_of_not_has hnew]
      · show ∃ old, t.Replaced (key, old) (key, value) (t.insert key value)
        rw [insert_of_has hkey]
        exact replaced_modifyFirst hkey fun entry => (entry.1, value)
  | rename old new =>
      refine ⟨?_, fun hsome => ?_, fun hnone => ?_⟩
      · rw [Option.isSome_iff_exists]
        simp only [rename?_eq_some_iff, exists_and_left, exists_eq, and_true]
      · obtain ⟨renamed, hrename⟩ := Option.isSome_iff_exists.mp hsome
        obtain ⟨hold, -, rfl⟩ := rename?_eq_some_iff.mp hrename
        rw [edit, hrename]
        exact replaced_modifyFirst hold fun entry => (new, entry.2)
      · rw [edit, hnone, Option.getD_none]
  | modify key f =>
      refine ⟨fun hkey => replaced_modifyFirst hkey fun entry => (entry.1, f entry.2), fun hnew => ?_⟩
      exact congrArg Table.mk (modifyFirst_of_not_mem (mt has_iff_mem_keys.mpr hnew) _)
  | modifyLast f =>
      refine ⟨fun before key value hlast => ?_, fun hempty => ?_⟩
      · simp [edit, modifyLast, hlast]
      · simp [edit, modifyLast, hempty]
  | map f => exact ⟨keys_map t f, by simp [edit, values, map]⟩
  | modifyEach f => exact ⟨keys_modifyEach t f, values_modifyEach t f⟩

/-! ### Tables and their maps -/

/-- The table has the names of the map in their order, and under each name the value of the map is found. -/
structure Represents (t : Table α) (m : OrderedMap α) : Prop where
  keys : t.keys = m.order
  get? : ∀ key, t.get? key = m.value? key

namespace Represents

variable {t t' : Table α} {m : OrderedMap α}

theorem nodup_keys (h : t.Represents m) : t.keys.Nodup := h.keys ▸ m.nodup

theorem has_iff (h : t.Represents m) {key : String} : t.Has key ↔ key ∈ m.order := by
  rw [has_iff_mem_keys, h.keys]

theorem empty : (∅ : Table α).Represents ∅ := ⟨rfl, fun _ => rfl⟩

theorem insert (h : t.Represents m) (key : String) (value : α) :
    (t.insert key value).Represents (m.insert key value) := by
  refine ⟨?_, fun k => ?_⟩
  · by_cases hkey : t.Has key
    · rw [keys_insert_of_has hkey, h.keys]
      exact (if_pos (h.has_iff.mp hkey)).symm
    · rw [keys_insert_of_not_has hkey, h.keys]
      exact (if_neg (mt h.has_iff.mpr hkey)).symm
  · rw [get?_insert, h.get?]
    exact (Function.update_apply ..).symm

theorem rename (h : t.Represents m) {old new : String} {value : α} (hrename : t.Replaced (old, value) (new, value) t')
    (hold : old ∈ m.order) (hnew : new ∉ m.order) : t'.Represents (m.rename old new hold hnew) := by
  have hvalue : m.value? old = some value := (h.get? old).symm.trans (hrename.get?_old h.nodup_keys)
  refine ⟨?_, fun key => ?_⟩
  · rw [hrename.keys_eq h.nodup_keys, h.keys]
    rfl
  · rw [hrename.get?_eq h.nodup_keys (.inr (h.keys ▸ hnew)), h.get?]
    simp [OrderedMap.rename, Function.update_apply, hvalue]

/-- The value of one name is changed. -/
theorem change (h : t.Represents m) {key : String} {value : α} {f : String → α → α}
    (hchange : t.Replaced (key, value) (key, f key value) t') (hother : ∀ k, k ≠ key → f k = id) :
    t'.Represents (m.change f) := by
  have hvalue : m.value? key = some value := (h.get? key).symm.trans (hchange.get?_old h.nodup_keys)
  refine ⟨?_, fun k => ?_⟩
  · rw [hchange.keys_eq h.nodup_keys, h.keys, OrderedMap.renamed_eq_self fun _ => rfl]
    rfl
  · rw [hchange.get?_eq h.nodup_keys (.inl rfl), h.get?]
    by_cases hk : k = key
    · simp [OrderedMap.change, hk, hvalue]
    · simp [OrderedMap.change, hk, hother k hk]

/-- No value is changed. -/
theorem change_of_forall (h : t.Represents m) {f : String → α → α} (hsame : ∀ k ∈ m.order, f k = id) :
    t.Represents (m.change f) := by
  refine ⟨h.keys, fun k => (h.get? k).trans ?_⟩
  by_cases hk : k ∈ m.order
  · simp [OrderedMap.change, hsame k hk]
  · simp [OrderedMap.change, OrderedMap.value?_eq_none_iff.mpr hk]

/-- A table that stands for a map goes on to do so with each change. -/
theorem edit (h : t.Represents m) (e : Edit α) : (t.edit e).Represents (m.edit e) := by
  have heffect := t.effect_edit e
  cases e with
  | insert key value => exact h.insert key value
  | rename old new =>
      obtain ⟨hiff, hreplaced, hsame⟩ := heffect
      rw [h.has_iff, h.has_iff] at hiff
      by_cases hfree : old ∈ m.order ∧ new ∉ m.order
      · obtain ⟨value, hrename⟩ := hreplaced (hiff.mpr hfree)
        have hrule : m.edit (.rename old new) = m.rename old new hfree.1 hfree.2 := dif_pos hfree
        exact hrule ▸ h.rename hrename hfree.1 hfree.2
      · have hrule : m.edit (.rename old new) = m := dif_neg hfree
        rw [hsame (Option.not_isSome_iff_eq_none.mp (mt hiff.mp hfree)), hrule]
        exact h
  | modify key f =>
      obtain ⟨hpresent, habsent⟩ := heffect
      by_cases hkey : t.Has key
      · obtain ⟨value, hvalue⟩ := hpresent hkey
        have hchange : t.Replaced (key, value) (key, (if key = key then f else id) value) (t.edit (.modify key f)) := by
          rwa [if_pos rfl]
        exact h.change hchange fun k hk => if_neg hk
      · rw [habsent hkey]
        exact h.change_of_forall fun k hk => if_neg fun heq : k = key => hkey (h.has_iff.mpr (heq ▸ hk))
  | modifyLast f =>
      obtain ⟨hlast, hempty⟩ := heffect
      rcases t.entries.eq_nil_or_concat' with hnil | ⟨before, ⟨key, value⟩, hentries⟩
      · have horder : m.order = [] := by rw [← h.keys, Table.keys, hnil, List.map_nil]
        rw [hempty hnil]
        exact h.change_of_forall fun k hk => by simp [horder] at hk
      · have horder : m.order.getLast? = some key := by
          rw [← h.keys, Table.keys, hentries, List.map_append, List.map_singleton, List.getLast?_concat]
        have hchange : t.Replaced (key, value) (key, (if m.order.getLast? = some key then f else id) value)
            (t.edit (.modifyLast f)) := by
          rw [if_pos horder]
          exact ⟨before, [], hentries, hlast before key value hentries⟩
        exact h.change hchange fun k hk => if_neg fun heq => hk (Option.some.inj (heq.symm.trans horder))
  | map f =>
      have hmap : t.edit (.map f) = t.modifyEach fun _ => f := map_eq_modifyEach t f
      rw [hmap]
      exact ⟨(keys_modifyEach t _).trans h.keys, fun k => by rw [get?_modifyEach, h.get?]; rfl⟩
  | modifyEach f =>
      refine ⟨(keys_modifyEach t f).trans h.keys, fun k => ?_⟩
      exact (get?_modifyEach t f k).trans (by rw [h.get?, h.keys]; rfl)

end Represents

/-- **Tables are ordered maps.** However a table that was empty at first has been changed, its names are different, and
one more change does what it is to do. The table stands for the map to which the rules lead: it has the names of the map
in their order, and what is found under a name is the value that was stored last. -/
theorem edited_orderedMap (history : List (Edit α)) :
    (edited history).keys.Nodup ∧ (∀ e : Edit α, e.Effect (edited history) (edited (history ++ [e]))) ∧
      (edited history).Represents (OrderedMap.edited history) := by
  have hrun : (edited history).Represents (OrderedMap.edited history) := by
    induction history using List.reverseRecOn with
    | nil => exact .empty
    | append_singleton history e ih =>
        rw [edited_concat, OrderedMap.edited_concat]
        exact ih.edit e
  refine ⟨hrun.nodup_keys, fun e => ?_, hrun⟩
  rw [edited_concat]
  exact effect_edit _ e

/-- A value is stored once more in its place, and a name that has been given is not free for another. -/
example : edited [.insert "id" 1, .insert "lang" 2, .insert "id" 3, .rename "id" "id_attr", .rename "lang" "id_attr"] =
    ⟨[("id_attr", 3), ("lang", 2)]⟩ := by
  decide

end Table

end SchemaBinding
