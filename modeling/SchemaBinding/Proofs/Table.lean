import Mathlib.Data.List.Induction
import SchemaBinding.Schema.Table

/-!
# `SchemaBinding.Proofs.Table`: what a table holds after values are stored

A stored value is found under its name, and all other names keep their values (`get?_insert`). So the table of a
list of entries gives, for each name, the value of the last entry with that name (`get?_ofList`).
-/

set_option autoImplicit false

namespace SchemaBinding.Table

variable {α : Type}

/-- Replacing the value of a present name, as `insert` does, changes what is found under that name alone. -/
theorem find?_modifyFirst (entries : List (String × α)) (key : String) (value : α) (k : String)
    (hkey : entries.any (·.1 == key) = true) :
    ((modifyFirst key (fun entry => (entry.1, value)) entries).find? (·.1 == k)).map (·.2) =
      if k = key then some value else (entries.find? (·.1 == k)).map (·.2) := by
  induction entries with
  | nil => simp at hkey
  | cons entry rest ih =>
      unfold modifyFirst
      by_cases hentry : entry.1 = key
      · rw [if_pos (beq_iff_eq.mpr hentry)]
        by_cases hk : k = key
        · rw [if_pos hk, List.find?_cons_of_pos]
          · rfl
          · simp [hentry, hk]
        · have hne : ¬ entry.1 = k := fun h => hk (h.symm.trans hentry)
          rw [if_neg hk, List.find?_cons_of_neg (by simpa using hne), List.find?_cons_of_neg (by simpa using hne)]
      · rw [if_neg (fun h => hentry (beq_iff_eq.mp h))]
        have hrest : rest.any (·.1 == key) = true := by simpa [hentry] using hkey
        by_cases hk : entry.1 = k
        · have hkey' : k ≠ key := fun h => hentry (hk.trans h)
          rw [List.find?_cons_of_pos (by simpa using hk), List.find?_cons_of_pos (by simpa using hk), if_neg hkey']
        · rw [List.find?_cons_of_neg (by simpa using hk), List.find?_cons_of_neg (by simpa using hk)]
          exact ih hrest

/-- What is found under a name after a value has been stored. -/
theorem get?_insert (t : Table α) (key : String) (value : α) (k : String) :
    (t.insert key value).get? k = if k = key then some value else t.get? k := by
  unfold insert get?
  split
  · rename_i hkey
    exact find?_modifyFirst t.entries key value k hkey
  · rename_i hkey
    have habsent : ∀ entry ∈ t.entries, entry.1 ≠ key := by
      intro entry hentry heq
      exact hkey (List.any_eq_true.mpr ⟨entry, hentry, beq_iff_eq.mpr heq⟩)
    rw [List.find?_append]
    by_cases hk : k = key
    · have hnone : t.entries.find? (·.1 == k) = none := by
        refine List.find?_eq_none.mpr ?_
        intro entry hentry
        simpa [hk] using habsent entry hentry
      rw [hnone, if_pos hk]
      simp [hk]
    · have hlast : [(key, value)].find? (·.1 == k) = none := by
        simpa using Ne.symm hk
      rw [hlast, Option.or_none, if_neg hk]

/-- The name has a value. -/
def Has (t : Table α) (key : String) : Prop := ∃ value, t.get? key = some value

theorem has_of_get?_eq {t : Table α} {key : String} {value : α} (h : t.get? key = some value) : t.Has key :=
  ⟨value, h⟩

theorem mem_entries_of_get?_eq {t : Table α} {key : String} {value : α} (h : t.get? key = some value) :
    (key, value) ∈ t.entries := by
  rw [get?, Option.map_eq_some_iff] at h
  obtain ⟨entry, hfind, rfl⟩ := h
  have hkey : entry.1 = key := by simpa using List.find?_some hfind
  exact hkey ▸ List.mem_of_find?_eq_some hfind

theorem get?_eq_none_iff {t : Table α} {key : String} : t.get? key = none ↔ ¬ t.Has key := by
  rw [Has, ← Option.isSome_iff_exists, Option.not_isSome_iff_eq_none]

theorem has_iff_mem_keys {t : Table α} {key : String} : t.Has key ↔ key ∈ t.keys := by
  rw [Has, ← Option.isSome_iff_exists, get?, Option.isSome_map, List.find?_isSome, keys, List.mem_map]
  simp only [beq_iff_eq]

theorem contains_iff_mem_keys {t : Table α} {key : String} : t.contains key = true ↔ key ∈ t.keys := by
  simp [contains, keys]

theorem contains_iff_has {t : Table α} {key : String} : t.contains key = true ↔ t.Has key :=
  contains_iff_mem_keys.trans has_iff_mem_keys.symm

theorem not_has_empty (key : String) : ¬ (∅ : Table α).Has key := by
  rw [has_iff_mem_keys]
  exact List.not_mem_nil

theorem get?_empty_ne (key : String) (value : α) : (∅ : Table α).get? key ≠ some value :=
  fun h => not_has_empty key ⟨value, h⟩

theorem has_insert {t : Table α} {key : String} {value : α} {k : String} :
    (t.insert key value).Has k ↔ k = key ∨ t.Has k := by
  unfold Has
  rw [get?_insert]
  by_cases hk : k = key <;> simp [hk]

theorem insert_of_has {t : Table α} {key : String} (h : t.Has key) (value : α) :
    t.insert key value = t.modify key fun _ => value :=
  if_pos (contains_iff_has.mpr h)

theorem insert_of_not_has {t : Table α} {key : String} (h : ¬ t.Has key) (value : α) :
    t.insert key value = ⟨t.entries ++ [(key, value)]⟩ :=
  if_neg (mt contains_iff_has.mp h)

/-- Another name is given where the old one is there and the new one is not. -/
theorem rename?_eq_some_iff {t renamed : Table α} {old new : String} :
    t.rename? old new = some renamed ↔
      t.Has old ∧ ¬ t.Has new ∧ renamed = ⟨modifyFirst old (fun entry => (new, entry.2)) t.entries⟩ := by
  rw [← contains_iff_has, ← contains_iff_has, rename?]
  cases t.contains old <;> cases t.contains new <;> simp [eq_comm]

/-- What holds of the new value and of all old ones holds of all values after the new one has been stored. -/
theorem forall_get?_insert {P : String → α → Prop} {t : Table α} (h : ∀ k v, t.get? k = some v → P k v) {key : String}
    {value : α} (hvalue : P key value) : ∀ k v, (t.insert key value).get? k = some v → P k v := by
  intro k v hv
  rw [get?_insert] at hv
  split at hv
  · rename_i hk
    cases hv
    rwa [hk]
  · exact h k v hv

/-- The same for all entries, of which the new value takes the place of an old one or stands last. -/
theorem forall_mem_entries_insert {P : String × α → Prop} {t : Table α} (h : ∀ entry ∈ t.entries, P entry) {key : String}
    {value : α} (hvalue : P (key, value)) : ∀ entry ∈ (t.insert key value).entries, P entry := by
  have hfirst : ∀ entries : List (String × α), (∀ entry ∈ entries, P entry) →
      ∀ entry ∈ modifyFirst key (fun entry => (entry.1, value)) entries, P entry := by
    intro entries
    induction entries with
    | nil => exact fun h => h
    | cons first rest ih =>
        intro hall entry hentry
        have hrest : ∀ entry ∈ rest, P entry := fun entry h => hall entry (List.mem_cons_of_mem _ h)
        unfold modifyFirst at hentry
        split at hentry
        · rename_i hkey
          rcases List.mem_cons.mp hentry with rfl | hentry
          · rwa [beq_iff_eq.mp hkey]
          · exact hrest entry hentry
        · rcases List.mem_cons.mp hentry with rfl | hentry
          · exact hall _ (List.mem_cons_self ..)
          · exact ih hrest entry hentry
  unfold insert
  split
  · exact hfirst t.entries h
  · intro entry hentry
    rcases List.mem_append.mp hentry with hentry | hentry
    · exact h entry hentry
    · rwa [List.mem_singleton.mp hentry]

/-! ### Values in place -/

theorem map_modifyFirst {β : Type} {key : String} {f : String × α → String × α} {g : String × α → β}
    (h : ∀ entry, g (f entry) = g entry) (entries : List (String × α)) :
    (modifyFirst key f entries).map g = entries.map g := by
  induction entries with
  | nil => rfl
  | cons entry rest ih =>
      unfold modifyFirst
      split
      · simp [h]
      · simp [ih]

/-- Another name leaves the values as they are. -/
theorem values_of_rename?_eq {t renamed : Table α} {old new : String} (h : t.rename? old new = some renamed) :
    renamed.values = t.values := by
  obtain ⟨-, -, rfl⟩ := rename?_eq_some_iff.mp h
  exact map_modifyFirst (f := fun entry => (new, entry.2)) (g := (·.2)) (fun _ => rfl) t.entries

/-- A change of a value that does not show leaves the values as they show. -/
theorem map_values_modify {β : Type} {f : α → α} {g : α → β} (h : ∀ value, g (f value) = g value) (t : Table α)
    (key : String) : (t.modify key f).values.map g = t.values.map g := by
  unfold values modify
  rw [List.map_map, List.map_map]
  exact map_modifyFirst (fun entry => h entry.2) t.entries

/-- The entry with a name is the one that is changed, where no entry before it has the name. -/
theorem modifyFirst_append {key : String} {before : List (String × α)} (hbefore : key ∉ before.map (·.1))
    (f : String × α → String × α) (value : α) (rest : List (String × α)) :
    modifyFirst key f (before ++ (key, value) :: rest) = before ++ f (key, value) :: rest := by
  induction before with
  | nil => simp [modifyFirst]
  | cons entry before ih =>
      rw [List.map_cons, List.mem_cons, not_or] at hbefore
      have hentry : ¬ (entry.1 == key) = true := by simpa using Ne.symm hbefore.1
      rw [List.cons_append, modifyFirst, if_neg hentry, ih hbefore.2, List.cons_append]

theorem modifyFirst_of_not_mem {key : String} {entries : List (String × α)} (hkey : key ∉ entries.map (·.1))
    (f : String × α → String × α) : modifyFirst key f entries = entries := by
  induction entries with
  | nil => rfl
  | cons entry rest ih =>
      rw [List.map_cons, List.mem_cons, not_or] at hkey
      rw [modifyFirst, if_neg (by simpa using Ne.symm hkey.1), ih hkey.2]

/-- An entry is found where no entry before it has its name. -/
theorem get?_of_entries_eq {t : Table α} {entry : String × α} {before rest : List (String × α)}
    (hentries : t.entries = before ++ entry :: rest) (hbefore : entry.1 ∉ before.map (·.1)) :
    t.get? entry.1 = some entry.2 := by
  have hnone : before.find? (·.1 == entry.1) = none := by
    refine List.find?_eq_none.mpr fun other hother heq => hbefore ?_
    exact List.mem_map.mpr ⟨other, hother, by simpa using heq⟩
  rw [get?, hentries, List.find?_append, hnone, Option.none_or, List.find?_cons_of_pos (by simp), Option.map_some]

/-! ### Keys -/

@[simp]
theorem keys_modify (t : Table α) (key : String) (f : α → α) : (t.modify key f).keys = t.keys :=
  map_modifyFirst (f := fun entry => (entry.1, f entry.2)) (g := (·.1)) (fun _ => rfl) t.entries

@[simp]
theorem keys_map (t : Table α) (f : α → α) : (t.map f).keys = t.keys := by
  simp [keys, map]

theorem keys_insert_of_has {t : Table α} {key : String} (h : t.Has key) (value : α) :
    (t.insert key value).keys = t.keys := by
  rw [insert_of_has h, keys_modify]

theorem keys_insert_of_not_has {t : Table α} {key : String} (h : ¬ t.Has key) (value : α) :
    (t.insert key value).keys = t.keys ++ [key] := by
  rw [insert_of_not_has h]
  exact List.map_append

/-- A value takes the place of the one under its name, so no name comes twice. -/
theorem nodup_keys_insert {t : Table α} (h : t.keys.Nodup) (key : String) (value : α) :
    (t.insert key value).keys.Nodup := by
  by_cases hkey : t.Has key
  · rw [keys_insert_of_has hkey]
    exact h
  · rw [keys_insert_of_not_has hkey]
    exact (List.perm_append_singleton key t.keys).nodup_iff.mpr (List.nodup_cons.mpr ⟨mt has_iff_mem_keys.mpr hkey, h⟩)

theorem nodup_keys_insertAll {t : Table α} (h : t.keys.Nodup) (new : List (String × α)) :
    (t.insertAll new).keys.Nodup :=
  List.foldlRecOn new _ (motive := fun t : Table α => t.keys.Nodup) h fun _ ht entry _ => nodup_keys_insert ht entry.1 entry.2

/-! ### Sizes -/

@[simp]
theorem length_modifyFirst (key : String) (f : String × α → String × α) (entries : List (String × α)) :
    (modifyFirst key f entries).length = entries.length := by
  induction entries with
  | nil => rfl
  | cons entry rest ih =>
      unfold modifyFirst
      split
      · rfl
      · rw [List.length_cons, ih, List.length_cons]

@[simp]
theorem size_map (t : Table α) (f : α → α) : (t.map f).size = t.size :=
  List.length_map ..

@[simp]
theorem size_modify (t : Table α) (key : String) (f : α → α) : (t.modify key f).size = t.size :=
  length_modifyFirst ..

theorem size_of_rename?_eq {t renamed : Table α} {old new : String} (h : t.rename? old new = some renamed) :
    renamed.size = t.size := by
  obtain ⟨-, -, rfl⟩ := rename?_eq_some_iff.mp h
  exact length_modifyFirst ..

/-- The value takes the place of an old one. -/
theorem size_insert_of_has {t : Table α} {key : String} (h : t.Has key) (value : α) :
    (t.insert key value).size = t.size := by
  rw [insert_of_has h, size_modify]

/-- The value stands last. -/
theorem size_insert_of_not_has {t : Table α} {key : String} (h : ¬ t.Has key) (value : α) :
    (t.insert key value).size = t.size + 1 := by
  rw [insert_of_not_has h]
  exact List.length_append

theorem size_le_size_insert (t : Table α) (key : String) (value : α) : t.size ≤ (t.insert key value).size := by
  by_cases h : t.Has key
  · exact Nat.le_of_eq (size_insert_of_has h value).symm
  · rw [size_insert_of_not_has h value]
    exact Nat.le_succ t.size

theorem size_le_size_insertAll (t : Table α) (new : List (String × α)) : t.size ≤ (t.insertAll new).size := by
  induction new generalizing t with
  | nil => exact Nat.le_refl _
  | cons entry rest ih => exact Nat.le_trans (size_le_size_insert t entry.1 entry.2) (ih _)

/-! ### Tables of lists -/

theorem ofList_concat (new : List (String × α)) (entry : String × α) :
    ofList (new ++ [entry]) = (ofList new).insert entry.1 entry.2 := by
  unfold ofList insertAll
  rw [List.foldl_append]
  rfl

/-- The last entry of a name counts. -/
theorem get?_ofList (new : List (String × α)) (k : String) :
    (ofList new).get? k = (new.reverse.find? (·.1 == k)).map (·.2) := by
  induction new using List.reverseRecOn with
  | nil => rfl
  | append_singleton new entry ih =>
      rw [ofList_concat, get?_insert, List.reverse_append, List.reverse_singleton, List.singleton_append]
      by_cases hk : k = entry.1
      · rw [if_pos hk, List.find?_cons_of_pos (by simpa using hk.symm)]
        rfl
      · rw [if_neg hk, List.find?_cons_of_neg (by simpa using Ne.symm hk), ih]

end SchemaBinding.Table
