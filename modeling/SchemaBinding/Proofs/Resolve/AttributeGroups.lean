import Mathlib.Data.List.Permutation
import Mathlib.Logic.Relation
import Mathlib.Order.WellFounded
import SchemaBinding.Proofs.Model
import SchemaBinding.Proofs.Resolve.Kept
import SchemaBinding.Proofs.Table
import SchemaBinding.Resolve.AttributeGroups

/-!
# `SchemaBinding.Proofs.Resolve.AttributeGroups`: the closure of attribute groups

The walk through attribute groups only knows the groups on its path, so it goes through a group once for each path that
leads there. `groupVisits` is the list of the names that it goes through. Two facts about it carry the rest. It leaves
out no name that a visited group refers to, but for those on the path (`mem_groupVisits_of_refers`). And its names,
each where it comes first, are in the order of a search that enters no group twice
(`firsts_flatMap_groupVisits`).

A walk without a finding about a circle shows that no circle is within reach, since the names below a visited group are
then well-founded (`acc_of_not_circular`). `expandAttributeGroups_closure` says what every node gets and what is
reported for it.
-/

set_option autoImplicit false

namespace SchemaBinding

/-! ### First occurrences -/

/-- The members of a list that are not among `seen`, each where it comes first. -/
def firsts {α : Type} [DecidableEq α] (seen : List α) : List α → List α
  | [] => []
  | x :: rest => if x ∈ seen then firsts seen rest else x :: firsts (seen ++ [x]) rest

section firsts
variable {α β : Type} [DecidableEq α] [DecidableEq β]

theorem firsts_of_mem {seen : List α} {x : α} (h : x ∈ seen) (rest : List α) :
    firsts seen (x :: rest) = firsts seen rest :=
  if_pos h

theorem firsts_of_not_mem {seen : List α} {x : α} (h : x ∉ seen) (rest : List α) :
    firsts seen (x :: rest) = x :: firsts (seen ++ [x]) rest :=
  if_neg h

theorem mem_firsts {seen l : List α} {x : α} : x ∈ firsts seen l ↔ x ∈ l ∧ x ∉ seen := by
  induction l generalizing seen with
  | nil => simp [firsts]
  | cons y rest ih =>
      by_cases hy : y ∈ seen
      · rw [firsts_of_mem hy, ih, List.mem_cons]
        constructor
        · exact fun h => ⟨.inr h.1, h.2⟩
        · rintro ⟨rfl | hx, hnew⟩
          · exact absurd hy hnew
          · exact ⟨hx, hnew⟩
      · rw [firsts_of_not_mem hy, List.mem_cons, ih, List.mem_cons, List.mem_append, List.mem_singleton]
        by_cases hxy : x = y
        · simp [hxy, hy]
        · simp [hxy]

theorem nodup_firsts (seen l : List α) : (firsts seen l).Nodup := by
  induction l generalizing seen with
  | nil => exact List.nodup_nil
  | cons y rest ih =>
      by_cases hy : y ∈ seen
      · rw [firsts_of_mem hy]
        exact ih seen
      · rw [firsts_of_not_mem hy]
        refine List.nodup_cons.mpr ⟨fun h => ?_, ih _⟩
        exact (mem_firsts.mp h).2 (List.mem_append_right _ (List.mem_singleton_self y))

/-- Only what is seen counts, and not in which order. -/
theorem firsts_congr {seen seen' : List α} (h : ∀ x, x ∈ seen ↔ x ∈ seen') (l : List α) :
    firsts seen l = firsts seen' l := by
  induction l generalizing seen seen' with
  | nil => rfl
  | cons y rest ih =>
      have hnext : ∀ x, x ∈ seen ++ [y] ↔ x ∈ seen' ++ [y] := fun x => by simp [h x]
      by_cases hy : y ∈ seen
      · rw [firsts_of_mem hy, firsts_of_mem ((h y).mp hy), ih h]
      · rw [firsts_of_not_mem hy, firsts_of_not_mem fun hy' => hy ((h y).mpr hy'), ih hnext]

theorem firsts_eq_nil {seen l : List α} (h : ∀ x ∈ l, x ∈ seen) : firsts seen l = [] :=
  List.eq_nil_iff_forall_not_mem.mpr fun x hx => (mem_firsts.mp hx).2 (h x (mem_firsts.mp hx).1)

/-- What comes first in the second part is not in the first one. -/
theorem firsts_append (seen a b : List α) : firsts seen (a ++ b) = firsts seen a ++ firsts (seen ++ a) b := by
  induction a generalizing seen with
  | nil => simp [firsts]
  | cons y rest ih =>
      rw [List.cons_append]
      by_cases hy : y ∈ seen
      · rw [firsts_of_mem hy, firsts_of_mem hy, ih]
        congr 1
        refine firsts_congr (fun x => ?_) b
        by_cases hxy : x = y
        · simp [hxy, hy]
        · simp [hxy]
      · rw [firsts_of_not_mem hy, firsts_of_not_mem hy, ih, List.cons_append, List.append_assoc, List.singleton_append]

/-- To go through the first occurrences alone changes nothing about what comes first behind them. -/
theorem firsts_flatMap_firsts (f : α → List β) (visited l : List α) (seen : List β)
    (h : ∀ x ∈ visited, ∀ y ∈ f x, y ∈ seen) :
    firsts seen ((firsts visited l).flatMap f) = firsts seen (l.flatMap f) := by
  induction l generalizing visited seen with
  | nil => rfl
  | cons x rest ih =>
      rw [List.flatMap_cons, firsts_append]
      have hgrown : ∀ z ∈ visited, ∀ y ∈ f z, y ∈ seen ++ f x := fun z hz y hy =>
        List.mem_append_left _ (h z hz y hy)
      by_cases hx : x ∈ visited
      · -- All of `f x` is seen, so neither side gets anything from it.
        rw [firsts_of_mem hx, firsts_eq_nil (h x hx), List.nil_append, ih visited seen h]
        refine firsts_congr (fun y => ?_) _
        rw [List.mem_append]
        exact ⟨.inl, fun hy => hy.elim id (h x hx y)⟩
      · rw [firsts_of_not_mem hx, List.flatMap_cons, firsts_append]
        congr 1
        refine ih (visited ++ [x]) (seen ++ f x) fun z hz y hy => ?_
        rcases List.mem_append.mp hz with hz | hz
        · exact hgrown z hz y hy
        · exact List.mem_append_right _ (List.mem_singleton.mp hz ▸ hy)

end firsts

namespace Table

variable {α : Type}

theorem keys_insert (t : Table α) (key : String) (value : α) :
    (t.insert key value).keys = t.keys ++ firsts t.keys [key] := by
  by_cases hkey : t.Has key
  · rw [keys_insert_of_has hkey, firsts_of_mem (has_iff_mem_keys.mp hkey), firsts, List.append_nil]
  · rw [keys_insert_of_not_has hkey, firsts_of_not_mem (mt has_iff_mem_keys.mpr hkey), firsts]

/-- Stored values keep the names where they are, and new names come behind them in the order in which they come up. -/
theorem keys_insertAll (t : Table α) (new : List (String × α)) :
    (t.insertAll new).keys = t.keys ++ firsts t.keys (new.map (·.1)) := by
  induction new generalizing t with
  | nil => simp [insertAll, firsts]
  | cons entry rest ih =>
      have hstep : t.insertAll (entry :: rest) = (t.insert entry.1 entry.2).insertAll rest := rfl
      rw [hstep, ih, List.map_cons, ← List.singleton_append, firsts_append, keys_insert, List.append_assoc]
      congr 2
      refine firsts_congr (fun x => ?_) _
      simp only [List.mem_append, mem_firsts]
      tauto

/-- Of the stored values of a name the last one is found. Where there is none, the old one is. -/
theorem get?_insertAll (t : Table α) (new : List (String × α)) (key : String) :
    (t.insertAll new).get? key = ((new.reverse.find? (·.1 == key)).map (·.2)).or (t.get? key) := by
  induction new generalizing t with
  | nil => rfl
  | cons entry rest ih =>
      have hstep : t.insertAll (entry :: rest) = (t.insert entry.1 entry.2).insertAll rest := rfl
      rw [hstep, ih, get?_insert, List.reverse_cons, List.find?_append]
      by_cases hkey : key = entry.1
      · rw [if_pos hkey, List.find?_singleton, if_pos (by simp [hkey])]
        cases List.find? (fun e => e.1 == key) rest.reverse <;> rfl
      · rw [if_neg hkey, List.find?_singleton, if_neg (by simpa using Ne.symm hkey), Option.or_none]

end Table

/-! ### The groups of a walk -/

namespace Symbols

variable {s : Symbols} {path seen refs : List String} {name x y : String}

/-- The names that an attribute group refers to. -/
def groupRefs (s : Symbols) (name : String) : List String :=
  ((s.attributeGroups.get? name).map (·.groupRefs)).getD []

/-- The attributes of an attribute group, by key. -/
def groupEntries (s : Symbols) (name : String) : List (String × AttributeDef) :=
  ((s.attributeGroups.get? name).map (·.attributes.entries)).getD []

def groupKeys (s : Symbols) (name : String) : List String := (s.groupEntries name).map (·.1)

/-- One attribute group refers to another. -/
def GroupRefers (s : Symbols) (x y : String) : Prop := y ∈ s.groupRefs x

/-- The references `refs` lead to an attribute group. -/
def LeadTo (s : Symbols) (refs : List String) (name : String) : Prop :=
  ∃ ref ∈ refs, Relation.ReflTransGen s.GroupRefers ref name

/-- The names that a walk goes through, from a reference on. -/
def groupVisits (s : Symbols) (path : List String) (name : String) : List String :=
  if _hpath : path.contains name = false then
    match _hname : s.attributeGroups.get? name with
    | none => [name]
    | some d => name :: d.groupRefs.flatMap (groupVisits s (path ++ [name]))
  else []
  termination_by (s.groupsOff path).length
  decreasing_by exact length_groupsOff_lt _hpath _hname

theorem groupVisits_of_mem (h : name ∈ path) : s.groupVisits path name = [] := by
  unfold groupVisits
  rw [dif_neg (by simpa using h)]

theorem groupVisits_of_not_mem (h : name ∉ path) :
    s.groupVisits path name = name :: (s.groupRefs name).flatMap (s.groupVisits (path ++ [name])) := by
  rw [groupVisits, dif_pos (by simpa using h), groupRefs]
  split <;> rename_i hname <;> simp [hname]

/-- To prove something of walks, the names on the path are one case, and a name with all that it refers to is the
other. -/
theorem walk_induction {P : List String → String → Prop} (hmem : ∀ path name, name ∈ path → P path name)
    (hstep : ∀ path name, name ∉ path → (∀ ref ∈ s.groupRefs name, P (path ++ [name]) ref) → P path name)
    (path : List String) (name : String) : P path name := by
  by_cases hpath : name ∈ path
  · exact hmem path name hpath
  · refine hstep path name hpath fun ref href => ?_
    cases hname : s.attributeGroups.get? name with
    | none => simp [groupRefs, hname] at href
    | some d => exact walk_induction hmem hstep (path ++ [name]) ref
  termination_by (s.groupsOff path).length
  decreasing_by exact length_groupsOff_lt (by simpa using hpath) hname

/-- A walk goes only where references lead. -/
theorem reaches_of_mem_groupVisits (h : x ∈ s.groupVisits path name) :
    Relation.ReflTransGen s.GroupRefers name x := by
  induction path, name using walk_induction (s := s) with
  | hmem path name hpath =>
      rw [groupVisits_of_mem hpath] at h
      cases h
  | hstep path name hpath ih =>
      rw [groupVisits_of_not_mem hpath] at h
      rcases List.mem_cons.mp h with rfl | h
      · exact .refl
      · obtain ⟨ref, href, hx⟩ := List.mem_flatMap.mp h
        exact .head href (ih ref href hx)

theorem mem_groupVisits_self (h : name ∉ path) : name ∈ s.groupVisits path name := by
  rw [groupVisits_of_not_mem h]
  exact List.mem_cons_self

/-- What a visited group refers to is visited, too, unless it is on the path. -/
theorem mem_groupVisits_of_refers (h : x ∈ s.groupVisits path name) (hrefers : s.GroupRefers x y) (hy : y ∉ path) :
    y ∈ s.groupVisits path name := by
  induction path, name using walk_induction (s := s) with
  | hmem path name hpath =>
      rw [groupVisits_of_mem hpath] at h
      cases h
  | hstep path name hpath ih =>
      by_cases hname : y = name
      · rw [hname]
        exact mem_groupVisits_self hpath
      · have hnext : y ∉ path ++ [name] := by simp [hy, hname]
        rw [groupVisits_of_not_mem hpath] at h ⊢
        refine List.mem_cons_of_mem _ (List.mem_flatMap.mpr ?_)
        rcases List.mem_cons.mp h with rfl | h
        · exact ⟨y, hrefers, mem_groupVisits_self hnext⟩
        · obtain ⟨ref, href, hx⟩ := List.mem_flatMap.mp h
          exact ⟨ref, href, ih ref href hx hnext⟩

/-- The walks from several references go exactly where these lead. -/
theorem mem_flatMap_groupVisits : x ∈ refs.flatMap (s.groupVisits []) ↔ s.LeadTo refs x := by
  rw [List.mem_flatMap]
  constructor
  · rintro ⟨ref, href, hx⟩
    exact ⟨ref, href, reaches_of_mem_groupVisits hx⟩
  · rintro ⟨ref, href, hreaches⟩
    refine ⟨ref, href, ?_⟩
    induction hreaches with
    | refl => exact mem_groupVisits_self List.not_mem_nil
    | tail _ hrefers ih => exact mem_groupVisits_of_refers ih hrefers List.not_mem_nil

/-! ### The order of a search -/

theorem length_groupsOff_le (s : Symbols) (path : List String) (name : String) :
    (s.groupsOff (path ++ [name])).length ≤ (s.groupsOff path).length := by
  unfold groupsOff
  refine List.Sublist.length_le (List.monotone_filter_right _ fun key hkey => ?_)
  simp_all

/-- The names that a search through attribute groups finds, in the order in which it enters them. It enters a group
before the groups that this one refers to, and none that it has `seen`. -/
def searchGroups (s : Symbols) (seen : List String) : (work : List String) → List String
  | [] => []
  | name :: rest =>
    if name ∈ seen then searchGroups s seen rest
    else name :: searchGroups s (seen ++ [name]) (s.groupRefs name ++ rest)
  termination_by work => ((s.groupsOff seen).length, work.length)
  decreasing_by
    · exact Prod.Lex.right _ (Nat.lt_succ_self _)
    · rename_i hseen
      cases hname : s.attributeGroups.get? name with
      | some d => exact Prod.Lex.left _ _ (length_groupsOff_lt (by simpa using hseen) hname)
      | none =>
          -- An undeclared name refers to nothing, so the work gets shorter.
          have hlength : (s.groupRefs name ++ rest).length < (name :: rest).length := by simp [groupRefs, hname]
          rcases Nat.lt_or_eq_of_le (length_groupsOff_le s seen name) with hlt | heq
          · exact Prod.Lex.left _ _ hlt
          · exact heq ▸ Prod.Lex.right _ hlength

/-- The attribute groups that references lead to, in the order of a search. -/
def groupsFrom (s : Symbols) (refs : List String) : List String := s.searchGroups [] refs

theorem searchGroups_of_mem (h : name ∈ seen) (rest : List String) :
    s.searchGroups seen (name :: rest) = s.searchGroups seen rest := by
  rw [searchGroups, if_pos h]

theorem searchGroups_of_not_mem (h : name ∉ seen) (rest : List String) :
    s.searchGroups seen (name :: rest) = name :: s.searchGroups (seen ++ [name]) (s.groupRefs name ++ rest) := by
  rw [searchGroups, if_neg h]

/-- Only what is seen counts, and not in which order. -/
theorem searchGroups_congr {seen seen' : List String} (h : ∀ x, x ∈ seen ↔ x ∈ seen') (work : List String) :
    s.searchGroups seen work = s.searchGroups seen' work := by
  induction seen, work using searchGroups.induct s generalizing seen' with
  | case1 seen => simp only [searchGroups]
  | case2 seen name rest hseen ih =>
      rw [searchGroups_of_mem hseen, searchGroups_of_mem ((h name).mp hseen), ih h]
  | case3 seen name rest hseen ih =>
      rw [searchGroups_of_not_mem hseen, searchGroups_of_not_mem fun hseen' => hseen ((h name).mpr hseen'), ih]
      intro x
      simp [h x]

/-- All that the seen groups refer to is seen, but for the groups on the path, of which that is still to come. -/
structure SeenOff (s : Symbols) (path seen : List String) : Prop where
  onPath : ∀ x ∈ path, x ∈ seen
  refers : ∀ x ∈ seen, x ∉ path → ∀ y, s.GroupRefers x y → y ∈ seen

namespace SeenOff

/-- A walk from a seen name finds nothing new. -/
theorem mem_of_mem_groupVisits (h : s.SeenOff path seen) (hname : name ∈ seen) (hx : x ∈ s.groupVisits path name) :
    x ∈ seen := by
  induction path, name using walk_induction (s := s) with
  | hmem path name hpath =>
      rw [groupVisits_of_mem hpath] at hx
      cases hx
  | hstep path name hpath ih =>
      rw [groupVisits_of_not_mem hpath] at hx
      rcases List.mem_cons.mp hx with rfl | hx
      · exact hname
      · obtain ⟨ref, href, hx⟩ := List.mem_flatMap.mp hx
        have hnext : s.SeenOff (path ++ [name]) seen :=
          { onPath := fun z hz => (List.mem_append.mp hz).elim (h.onPath z) fun hz => List.mem_singleton.mp hz ▸ hname
            refers := fun z hz hoff => h.refers z hz fun hpath => hoff (List.mem_append_left _ hpath) }
        exact ih ref href hnext (h.refers name hname hpath ref href) hx

/-- After a walk, its names are seen with all that they refer to. -/
theorem visited (h : s.SeenOff path seen) (name : String) : s.SeenOff path (seen ++ s.groupVisits path name) where
  onPath x hx := List.mem_append_left _ (h.onPath x hx)
  refers x hx hoff y hrefers := by
    rw [List.mem_append] at hx ⊢
    by_cases hy : y ∈ path
    · exact .inl (h.onPath y hy)
    · exact hx.imp (fun hx => h.refers x hx hoff y hrefers) fun hx => mem_groupVisits_of_refers hx hrefers hy

/-- A name that is entered comes onto the path. -/
theorem entered (h : s.SeenOff path seen) (name : String) : s.SeenOff (path ++ [name]) (seen ++ [name]) where
  onPath x hx := by
    rw [List.mem_append] at hx ⊢
    exact hx.imp_left (h.onPath x)
  refers x hx hoff y hrefers := by
    rw [List.mem_append, not_or] at hoff
    refine List.mem_append_left _ (h.refers x ?_ hoff.1 y hrefers)
    exact (List.mem_append.mp hx).resolve_right hoff.2

/-- What is known of the walk from each reference gives the same for the walks from all of them. -/
theorem searchGroups_append {refs : List String}
    (hrefs : ∀ ref ∈ refs, ∀ seen rest, s.SeenOff path seen → s.searchGroups seen (ref :: rest) =
      firsts seen (s.groupVisits path ref) ++ s.searchGroups (seen ++ s.groupVisits path ref) rest)
    (h : s.SeenOff path seen) (rest : List String) :
    s.searchGroups seen (refs ++ rest) = firsts seen (refs.flatMap (s.groupVisits path)) ++
      s.searchGroups (seen ++ refs.flatMap (s.groupVisits path)) rest := by
  induction refs generalizing seen with
  | nil => simp [firsts]
  | cons ref refs ih =>
      rw [List.cons_append, hrefs ref List.mem_cons_self seen _ h,
        ih (fun ref href => hrefs ref (List.mem_cons_of_mem _ href)) (h.visited ref), List.flatMap_cons, firsts_append,
        List.append_assoc, List.append_assoc]

/-- The search finds the names of a walk where they come first, and goes on behind them. -/
theorem searchGroups_cons (h : s.SeenOff path seen) (name : String) (rest : List String) :
    s.searchGroups seen (name :: rest) =
      firsts seen (s.groupVisits path name) ++ s.searchGroups (seen ++ s.groupVisits path name) rest := by
  induction path, name using walk_induction (s := s) generalizing seen rest with
  | hmem path name hpath =>
      rw [groupVisits_of_mem hpath, searchGroups_of_mem (h.onPath name hpath), List.append_nil]
      rfl
  | hstep path name hpath ih =>
      by_cases hseen : name ∈ seen
      · have hall : ∀ x ∈ s.groupVisits path name, x ∈ seen := fun x hx => h.mem_of_mem_groupVisits hseen hx
        rw [searchGroups_of_mem hseen, firsts_eq_nil hall, List.nil_append]
        refine searchGroups_congr (fun x => ?_) rest
        rw [List.mem_append]
        exact ⟨.inl, fun hx => hx.elim id (hall x)⟩
      · have hrefs := searchGroups_append (fun ref href seen rest hseen => ih ref href hseen rest) (h.entered name) rest
        rw [searchGroups_of_not_mem hseen, hrefs, groupVisits_of_not_mem hpath, firsts_of_not_mem hseen,
          List.cons_append, List.append_assoc, List.singleton_append]

end SeenOff

/-- The names of the walks from several references, each where it comes first, are in the order of a search. -/
theorem groupsFrom_eq (refs : List String) : s.groupsFrom refs = firsts [] (refs.flatMap (s.groupVisits [])) := by
  have hstart : s.SeenOff [] [] := ⟨by simp, by simp⟩
  have h : s.searchGroups [] (refs ++ []) = firsts [] (refs.flatMap (s.groupVisits [])) ++
      s.searchGroups ([] ++ refs.flatMap (s.groupVisits [])) [] :=
    hstart.searchGroups_append (fun ref _ seen rest hseen => hseen.searchGroups_cons ref rest) []
  rw [List.append_nil] at h
  rw [groupsFrom, h, searchGroups, List.append_nil]

theorem nodup_groupsFrom (refs : List String) : (s.groupsFrom refs).Nodup := by
  rw [groupsFrom_eq]
  exact nodup_firsts [] _

/-- The search finds exactly what the references lead to. -/
theorem mem_groupsFrom : x ∈ s.groupsFrom refs ↔ s.LeadTo refs x := by
  rw [groupsFrom_eq, mem_firsts, mem_flatMap_groupVisits]
  simp

/-- The group `a` refers to `b` and `c`, and both refer to `d`. There is a way back from `c` to `a`, and `b` refers to a
group that nobody declares. -/
def diamond : Symbols where
  attributeGroups := .ofList [
    ("a", { name := "a", groupRefs := ["b", "c"] }),
    ("b", { name := "b", attributes := ⟨[("unit", .declared "unit" "string")]⟩, groupRefs := ["d", "lost"] }),
    ("c", { name := "c", attributes := ⟨[("unit", .declared "unit" "int")]⟩, groupRefs := ["d", "a"] }),
    ("d", { name := "d", attributes := ⟨[("id", .declared "id" "int"), ("lang", .declared "lang" "string")]⟩ })]

example : diamond.groupsFrom ["a"] = ["a", "b", "d", "lost", "c"] := by cbv

/-! ### What a walk collects -/

theorem collectAttributes_of_mem (owner : String) (h : name ∈ path) :
    collectAttributes s owner path name = ⟨[], [circularAttributeGroup owner name]⟩ := by
  rw [collectAttributes, dif_neg (by simpa using h)]

theorem concat_eq (parts : List CollectedAttributes) :
    CollectedAttributes.concat parts = ⟨parts.flatMap (·.entries), parts.flatMap (·.findings)⟩ := by
  have hfrom : ∀ start : CollectedAttributes, parts.foldl CollectedAttributes.append start =
      ⟨start.entries ++ parts.flatMap (·.entries), start.findings ++ parts.flatMap (·.findings)⟩ := by
    induction parts with
    | nil => simp
    | cons part parts ih => intro start; simp [ih, CollectedAttributes.append]
  exact hfrom ⟨[], []⟩

/-- A name off the path adds its own attributes, or the finding that nobody declares it. -/
theorem collectAttributes_of_not_mem (owner : String) (h : name ∉ path) :
    collectAttributes s owner path name =
      ⟨s.groupEntries name ++ (s.groupRefs name).flatMap fun ref => (collectAttributes s owner (path ++ [name]) ref).entries,
        (if s.attributeGroups.get? name = none then [unknownAttributeGroup owner name] else []) ++
          (s.groupRefs name).flatMap fun ref => (collectAttributes s owner (path ++ [name]) ref).findings⟩ := by
  rw [collectAttributes, dif_pos (by simpa using h)]
  unfold groupEntries groupRefs
  split <;> rename_i hname
  · simp [hname]
  · simp [hname, concat_eq, CollectedAttributes.append, List.flatMap_map]

/-- A walk collects the attributes of the groups that it goes through. -/
theorem entries_collectAttributes (owner : String) :
    (collectAttributes s owner path name).entries = (s.groupVisits path name).flatMap s.groupEntries := by
  induction path, name using walk_induction (s := s) with
  | hmem path name hpath => rw [collectAttributes_of_mem owner hpath, groupVisits_of_mem hpath]; rfl
  | hstep path name hpath ih =>
      rw [collectAttributes_of_not_mem owner hpath, groupVisits_of_not_mem hpath, List.flatMap_cons, List.flatMap_assoc]
      exact congrArg (s.groupEntries name ++ ·) (List.flatMap_congr fun ref href => ih ref href)

/-- The reasons for a finding of a walk. -/
inductive WalkFinding (s : Symbols) (owner name : String) : Diagnostic → Prop where
  | unknown {x : String} (hreaches : Relation.ReflTransGen s.GroupRefers name x)
      (hundeclared : s.attributeGroups.get? x = none) : WalkFinding s owner name (unknownAttributeGroup owner x)
  | circular {x : String} (hreaches : Relation.ReflTransGen s.GroupRefers name x)
      (hcircle : Relation.TransGen s.GroupRefers x x) : WalkFinding s owner name (circularAttributeGroup owner x)

theorem WalkFinding.head {owner : String} {d : Diagnostic} (hrefers : s.GroupRefers name x)
    (h : s.WalkFinding owner x d) : s.WalkFinding owner name d := by
  cases h with
  | unknown hreaches hundeclared => exact .unknown (.head hrefers hreaches) hundeclared
  | circular hreaches hcircle => exact .circular (.head hrefers hreaches) hcircle

/-- Each finding has its reason, since the groups on the path lead to the name that the walk is at. -/
theorem walkFinding_of_mem {owner : String} {d : Diagnostic} (hd : d ∈ (collectAttributes s owner path name).findings)
    (hpath : ∀ x ∈ path, Relation.TransGen s.GroupRefers x name) : s.WalkFinding owner name d := by
  induction path, name using walk_induction (s := s) with
  | hmem path name hmem =>
      rw [collectAttributes_of_mem owner hmem, List.mem_singleton] at hd
      exact hd ▸ .circular .refl (hpath name hmem)
  | hstep path name hmem ih =>
      rw [collectAttributes_of_not_mem owner hmem] at hd
      rcases List.mem_append.mp hd with hd | hd
      · split at hd
        · rename_i hundeclared
          exact List.mem_singleton.mp hd ▸ .unknown .refl hundeclared
        · cases hd
      · obtain ⟨ref, href, hd⟩ := List.mem_flatMap.mp hd
        refine .head href (ih ref href hd fun x hx => ?_)
        rcases List.mem_append.mp hx with hx | hx
        · exact (hpath x hx).tail href
        · exact List.mem_singleton.mp hx ▸ .single href

/-- Every undeclared name that a walk comes to is reported. -/
theorem unknown_mem_findings (owner : String) (hx : x ∈ s.groupVisits path name)
    (hundeclared : s.attributeGroups.get? x = none) :
    unknownAttributeGroup owner x ∈ (collectAttributes s owner path name).findings := by
  induction path, name using walk_induction (s := s) with
  | hmem path name hpath =>
      rw [groupVisits_of_mem hpath] at hx
      cases hx
  | hstep path name hpath ih =>
      rw [groupVisits_of_not_mem hpath] at hx
      rw [collectAttributes_of_not_mem owner hpath]
      rcases List.mem_cons.mp hx with rfl | hx
      · rw [if_pos hundeclared]
        exact List.mem_append_left _ (List.mem_singleton_self _)
      · obtain ⟨ref, href, hx⟩ := List.mem_flatMap.mp hx
        exact List.mem_append_right _ (List.mem_flatMap.mpr ⟨ref, href, ih ref href hx⟩)

/-- Where a walk reports no circle, the references below the name come to an end. -/
theorem acc_of_not_circular {owner : String}
    (h : ∀ x, circularAttributeGroup owner x ∉ (collectAttributes s owner path name).findings) :
    Acc (fun y x => s.GroupRefers x y) name := by
  induction path, name using walk_induction (s := s) with
  | hmem path name hpath =>
      refine absurd ?_ (h name)
      rw [collectAttributes_of_mem owner hpath]
      exact List.mem_singleton_self _
  | hstep path name hpath ih =>
      refine Acc.intro name fun ref href => ih ref href fun x hx => h x ?_
      rw [collectAttributes_of_not_mem owner hpath]
      exact List.mem_append_right _ (List.mem_flatMap.mpr ⟨ref, href, hx⟩)

/-- References that come to an end do not lead to a circle. -/
theorem not_circle_of_acc (h : Acc (fun y x => s.GroupRefers x y) name)
    (hreaches : Relation.ReflTransGen s.GroupRefers name x) : ¬ Relation.TransGen s.GroupRefers x x := by
  induction h with
  | intro name _ ih =>
      intro hcircle
      rcases Relation.ReflTransGen.cases_head hreaches with rfl | ⟨ref, href, hrest⟩
      · -- The first step of the circle is a reference from which the circle can be gone round.
        obtain ⟨ref, href, hback⟩ := Relation.TransGen.head'_iff.mp hcircle
        exact ih ref href hback hcircle
      · exact ih ref href hrest hcircle

end Symbols

/-! ### What a node gets -/

/-- What the walks from the references of a node collect. -/
def collectedFor (s : Symbols) (n : Node) : CollectedAttributes :=
  .concat (n.attributeGroupRefs.map (collectAttributes s n.name []))

/-- The messages about circles and about undeclared groups have different first letters. -/
theorem circularAttributeGroup_ne_unknownAttributeGroup (owner owner' x y : String) :
    circularAttributeGroup owner x ≠ unknownAttributeGroup owner' y := by
  intro heq
  have hmessage := congrArg (fun d : Diagnostic => d.message.toList.head?) heq
  simp [circularAttributeGroup, unknownAttributeGroup, Diagnostics.warning, String.toList_append] at hmessage

/-- What a node becomes. -/
def expandedNode (s : Symbols) (n : Node) : Node :=
  { n with attributes := n.attributes.insertAll (collectedFor s n).entries }

/-- The node `new` is the node `n` with the attributes of all groups that its references lead to, and `findings` are
what is to be said about these. -/
structure Expanded (s : Symbols) (n new : Node) (findings : Diagnostics) : Prop where
  rest : new = { n with attributes := new.attributes }
  /-- The keys of the node stay in place. Those of the groups come behind them, each where it comes first. -/
  keys : new.attributes.keys =
    n.attributes.keys ++ firsts n.attributes.keys ((s.groupsFrom n.attributeGroupRefs).flatMap s.groupKeys)
  /-- A key that a group provides has a definition from one of the groups. -/
  provided : ∀ key, (∃ name, s.LeadTo n.attributeGroupRefs name ∧ key ∈ s.groupKeys name) →
    ∃ name d, s.LeadTo n.attributeGroupRefs name ∧ (key, d) ∈ s.groupEntries name ∧ new.attributes.get? key = some d
  /-- Any other key has the definition that it had. -/
  unprovided : ∀ key, (∀ name, s.LeadTo n.attributeGroupRefs name → key ∉ s.groupKeys name) →
    new.attributes.get? key = n.attributes.get? key
  circular : (∃ name, circularAttributeGroup n.name name ∈ findings) ↔
    ∃ name, s.LeadTo n.attributeGroupRefs name ∧ Relation.TransGen s.GroupRefers name name
  unknown : (∃ name, unknownAttributeGroup n.name name ∈ findings) ↔
    ∃ name, s.LeadTo n.attributeGroupRefs name ∧ s.attributeGroups.get? name = none
  /-- Every undeclared group has a finding of its own. -/
  eachUnknown : ∀ name, s.LeadTo n.attributeGroupRefs name → s.attributeGroups.get? name = none →
    unknownAttributeGroup n.name name ∈ findings
  /-- There are no other findings. -/
  only : ∀ d ∈ findings, ∃ name, d = circularAttributeGroup n.name name ∨ d = unknownAttributeGroup n.name name

section collected
variable {s : Symbols} {n : Node}

theorem collectedFor_eq (s : Symbols) (n : Node) :
    collectedFor s n =
      ⟨(n.attributeGroupRefs.flatMap (s.groupVisits [])).flatMap s.groupEntries,
        n.attributeGroupRefs.flatMap fun ref => (collectAttributes s n.name [] ref).findings⟩ := by
  unfold collectedFor
  rw [Symbols.concat_eq, List.flatMap_map, List.flatMap_map, List.flatMap_assoc]
  simp only [Symbols.entries_collectAttributes]

theorem mem_entries_collectedFor {entry : String × AttributeDef} :
    entry ∈ (collectedFor s n).entries ↔ ∃ name, s.LeadTo n.attributeGroupRefs name ∧ entry ∈ s.groupEntries name := by
  rw [collectedFor_eq, List.mem_flatMap]
  simp only [Symbols.mem_flatMap_groupVisits]

/-- The keys that the walks collect come first in the order of a search. -/
theorem firsts_keys_collectedFor (seen : List String) :
    firsts seen ((collectedFor s n).entries.map (·.1)) =
      firsts seen ((s.groupsFrom n.attributeGroupRefs).flatMap s.groupKeys) := by
  rw [collectedFor_eq, List.map_flatMap, Symbols.groupsFrom_eq]
  exact (firsts_flatMap_firsts s.groupKeys [] _ seen (by simp)).symm

theorem circular_mem_collectedFor_iff :
    (∃ name, circularAttributeGroup n.name name ∈ (collectedFor s n).findings) ↔
      ∃ name, s.LeadTo n.attributeGroupRefs name ∧ Relation.TransGen s.GroupRefers name name := by
  rw [collectedFor_eq]
  constructor
  · rintro ⟨name, hd⟩
    obtain ⟨ref, href, hd⟩ := List.mem_flatMap.mp hd
    have hwhy := Symbols.walkFinding_of_mem hd (by simp)
    generalize hsame : circularAttributeGroup n.name name = d at hwhy
    cases hwhy with
    | unknown => exact (circularAttributeGroup_ne_unknownAttributeGroup _ _ _ _ hsame).elim
    | circular hreaches hcircle => exact ⟨_, ⟨ref, href, hreaches⟩, hcircle⟩
  · rintro ⟨name, ⟨ref, href, hreaches⟩, hcircle⟩
    -- A walk without such a finding would not lead to a circle.
    by_contra hnone
    have hquiet : ∀ x, circularAttributeGroup n.name x ∉ (collectAttributes s n.name [] ref).findings :=
      fun x hx => hnone ⟨x, List.mem_flatMap.mpr ⟨ref, href, hx⟩⟩
    exact Symbols.not_circle_of_acc (Symbols.acc_of_not_circular hquiet) hreaches hcircle

theorem unknown_mem_collectedFor {name : String} (h : s.LeadTo n.attributeGroupRefs name)
    (hundeclared : s.attributeGroups.get? name = none) :
    unknownAttributeGroup n.name name ∈ (collectedFor s n).findings := by
  obtain ⟨ref, href, hvisit⟩ := List.mem_flatMap.mp (Symbols.mem_flatMap_groupVisits.mpr h)
  rw [collectedFor_eq]
  exact List.mem_flatMap.mpr ⟨ref, href, Symbols.unknown_mem_findings n.name hvisit hundeclared⟩

theorem unknown_mem_collectedFor_iff :
    (∃ name, unknownAttributeGroup n.name name ∈ (collectedFor s n).findings) ↔
      ∃ name, s.LeadTo n.attributeGroupRefs name ∧ s.attributeGroups.get? name = none := by
  constructor
  · rintro ⟨name, hd⟩
    rw [collectedFor_eq] at hd
    obtain ⟨ref, href, hd⟩ := List.mem_flatMap.mp hd
    have hwhy := Symbols.walkFinding_of_mem hd (by simp)
    generalize hsame : unknownAttributeGroup n.name name = d at hwhy
    cases hwhy with
    | unknown hreaches hundeclared => exact ⟨_, ⟨ref, href, hreaches⟩, hundeclared⟩
    | circular => exact (circularAttributeGroup_ne_unknownAttributeGroup _ _ _ _ hsame.symm).elim
  · rintro ⟨name, hlead, hundeclared⟩
    exact ⟨name, unknown_mem_collectedFor hlead hundeclared⟩

theorem only_collectedFor {d : Diagnostic} (hd : d ∈ (collectedFor s n).findings) :
    ∃ name, d = circularAttributeGroup n.name name ∨ d = unknownAttributeGroup n.name name := by
  rw [collectedFor_eq] at hd
  obtain ⟨ref, -, hd⟩ := List.mem_flatMap.mp hd
  cases Symbols.walkFinding_of_mem hd (by simp) with
  | unknown => exact ⟨_, .inr rfl⟩
  | circular => exact ⟨_, .inl rfl⟩

theorem expanded_expandedNode (s : Symbols) (n : Node) : Expanded s n (expandedNode s n) (collectedFor s n).findings where
  rest := rfl
  keys := by
    rw [← firsts_keys_collectedFor]
    exact Table.keys_insertAll n.attributes _
  provided := by
    rintro key ⟨name, hlead, hkey⟩
    obtain ⟨entry, hentry, hsame⟩ := List.mem_map.mp hkey
    have hmem : entry ∈ (collectedFor s n).entries.reverse :=
      List.mem_reverse.mpr (mem_entries_collectedFor.mpr ⟨name, hlead, hentry⟩)
    -- The last entry with the key is the one that is found.
    cases hlast : (collectedFor s n).entries.reverse.find? (·.1 == key) with
    | none => exact absurd (beq_iff_eq.mpr hsame) (List.find?_eq_none.mp hlast entry hmem)
    | some last =>
        have hlastkey : last.1 = key := by simpa using List.find?_some hlast
        obtain ⟨source, hsource, hlastentry⟩ :=
          mem_entries_collectedFor.mp (List.mem_reverse.mp (List.mem_of_find?_eq_some hlast))
        refine ⟨source, last.2, hsource, hlastkey ▸ hlastentry, ?_⟩
        change (n.attributes.insertAll (collectedFor s n).entries).get? key = some last.2
        rw [Table.get?_insertAll, hlast]
        rfl
  unprovided := by
    intro key hnone
    have hfind : (collectedFor s n).entries.reverse.find? (·.1 == key) = none := by
      refine List.find?_eq_none.mpr fun entry hentry hkey => ?_
      obtain ⟨name, hlead, hmem⟩ := mem_entries_collectedFor.mp (List.mem_reverse.mp hentry)
      exact hnone name hlead (List.mem_map.mpr ⟨entry, hmem, by simpa using hkey⟩)
    change (n.attributes.insertAll (collectedFor s n).entries).get? key = n.attributes.get? key
    rw [Table.get?_insertAll, hfind]
    rfl
  circular := circular_mem_collectedFor_iff
  unknown := unknown_mem_collectedFor_iff
  eachUnknown _ hlead hundeclared := unknown_mem_collectedFor hlead hundeclared
  only _ hd := only_collectedFor hd

end collected

/-! ### The pass -/

theorem expandAttributeRefs_eq (m : Model) (id : NodeId) :
    expandAttributeRefs m id =
      ⟨m.modifyNode id fun n => { n with attributes := n.attributes.insertAll (collectedFor m.symbols (m.node id)).entries },
        (collectedFor m.symbols (m.node id)).findings⟩ := rfl

/-- The pass has been at the nodes `ids` of the model `m`. -/
structure ExpandedAt (m : Model) (ids : List NodeId) (r : Resolved) : Prop where
  symbols : r.model.symbols = m.symbols
  holds : ∀ x, r.model.Holds x ↔ m.Holds x
  node : ∀ x, r.model.node x = if x ∈ ids then expandedNode m.symbols (m.node x) else m.node x
  findings : r.findings = ids.flatMap fun id => (collectedFor m.symbols (m.node id)).findings

theorem ExpandedAt.step {m : Model} {ids : List NodeId} {r : Resolved} (h : ExpandedAt m ids r) {id : NodeId}
    (hnew : id ∉ ids) (hid : m.Holds id) : ExpandedAt m (ids ++ [id]) (r.andThen (expandAttributeRefs · id)) := by
  have hnode : r.model.node id = m.node id := by rw [h.node, if_neg hnew]
  have hheld : r.model.Holds id := (h.holds id).mpr hid
  simp only [Resolved.andThen, expandAttributeRefs_eq, h.symbols, hnode]
  refine ⟨h.symbols, fun x => ?_, fun x => ?_, ?_⟩
  · rw [← h.holds x]
    exact Model.holds_modifyNode ..
  · rw [Model.node_modifyNode]
    by_cases hx : x = id
    · subst hx
      rw [if_pos ⟨rfl, hheld⟩, if_pos (by simp), hnode]
      rfl
    · rw [if_neg fun hsame => hx hsame.1, h.node]
      simp [hx]
  · rw [List.flatMap_append, ← h.findings]
    simp

theorem expandedAt_forEach (m : Model) (ids : List NodeId) (hnodup : ids.Nodup) (hheld : ∀ id ∈ ids, m.Holds id) :
    ExpandedAt m ids (.forEach m ids expandAttributeRefs) := by
  induction ids using List.reverseRecOn with
  | nil => exact ⟨rfl, fun _ => Iff.rfl, fun x => by simp [Resolved.forEach], rfl⟩
  | append_singleton ids id ih =>
      have hids := List.nodup_append.mp hnodup
      have hlast := ih hids.1 fun x hx => hheld x (List.mem_append_left _ hx)
      have hnew : id ∉ ids := fun h => hids.2.2 id h id (List.mem_singleton_self id) rfl
      have hstep := hlast.step hnew (hheld id (by simp))
      rw [Resolved.forEach, List.foldl_append]
      exact hstep

/-- Every node that the root reaches gets the attributes of all groups that its references lead to, in the order of
a search, and keeps its own keys in place. The findings say for each node whether these groups refer to each other in a
circle, and whether one of them is undeclared. -/
theorem expandAttributeGroups_closure (m : Model) :
    (expandAttributeGroups m).findings = m.preorder.flatMap (fun id => (expandAttributeRefs m id).findings) ∧
      (∀ refs, (m.symbols.groupsFrom refs).Nodup ∧
        ∀ name, name ∈ m.symbols.groupsFrom refs ↔ m.symbols.LeadTo refs name) ∧
      ∀ id, m.Reaches Model.root id → m.Holds id →
        Expanded m.symbols (m.node id) ((expandAttributeGroups m).model.node id) (expandAttributeRefs m id).findings := by
  have hdone : ExpandedAt m m.preorder (expandAttributeGroups m) :=
    expandedAt_forEach m m.preorder (Model.nodup_preorder m) fun id hid => Model.holds_of_mem_preorder hid
  refine ⟨hdone.findings, fun refs => ⟨Symbols.nodup_groupsFrom refs, fun name => Symbols.mem_groupsFrom⟩, ?_⟩
  intro id hreaches hheld
  rw [hdone.node, if_pos (Model.mem_preorder_iff.mpr ⟨hreaches, hheld⟩), expandAttributeRefs_eq]
  exact expanded_expandedNode m.symbols (m.node id)

/-- A type with an attribute of its own that refers to the groups of `diamond`. -/
def referringModel : Model where
  nodes := #[{ kind := .schema, name := "schema", cleanName := "schema", children := [⟨1⟩] },
    { kind := .complexType, name := "Order", cleanName := "Order", attributes := ⟨[("id", .declared "id" "string")]⟩
      attributeGroupRefs := ["a"] }]
  symbols := Symbols.diamond
  builtins := ⟨""⟩

theorem expandAttributeGroups_closure_referringModel :
    referringModel.Reaches Model.root ⟨1⟩ ∧ referringModel.Holds ⟨1⟩ ∧
      ((expandAttributeGroups referringModel).model.node ⟨1⟩).attributes.keys = ["id", "unit", "lang"] := by
  have hreaches : referringModel.Reaches Model.root ⟨1⟩ := .single (by decide)
  have hheld : referringModel.Holds ⟨1⟩ := by decide
  refine ⟨hreaches, hheld, ?_⟩
  rw [((expandAttributeGroups_closure referringModel).2.2 ⟨1⟩ hreaches hheld).keys]
  cbv

end SchemaBinding
