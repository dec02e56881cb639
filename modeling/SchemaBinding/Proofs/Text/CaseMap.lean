import SchemaBinding.Text.Casing
import SchemaBinding.Text.CharSet.Identifiers

/-!
# `SchemaBinding.Proofs.Text.CaseMap`: characters in another letter case

A table of case mappings moves whole runs of characters. Most runs lie in one range of a set of characters and are moved
into one range of it, or lie beside all ranges and are moved beside all of them. So it is seen run by run that a mapping
does not lead into a set or out of it (`CaseRun.isStable`); a run that does neither is looked through point by point.

* `CaseMap.all_full` and `CaseMap.head?_full`: a mapping that is stable on a set keeps its characters in it.
* `CaseMap.full_eq_self`: a character beside a set with everything that a table maps stays as it is.
-/

set_option autoImplicit false

namespace SchemaBinding

/-! ### Ranges of code points -/

namespace CharSet

variable {s : CharSet} {a b n : Nat}

/-- Whether the code point lies in one of the ranges. -/
def holds (s : CharSet) (n : Nat) : Bool := s.ranges.any fun r => r.1 ≤ n && n ≤ r.2

/-- The ranges in groups of sixteen, each with the end of its last one. `count` groups come before what is left. -/
def groups (count : Nat) (ranges : List (Nat × Nat)) : List (Nat × List (Nat × Nat)) :=
  match count with
  | 0 => [((ranges.getLast?.map (·.2)).getD 0, ranges)]
  | count + 1 => (((ranges.take 16).getLast?.map (·.2)).getD 0, ranges.take 16) :: groups count (ranges.drop 16)

/-- Whether one of the ranges has all code points between two of them. Groups that end before are passed over. -/
def covers (s : CharSet) (a b : Nat) : Bool :=
  (groups (s.ranges.length / 16) s.ranges).any fun group => b.ble group.1 && group.2.any fun r => r.1.ble a && b.ble r.2

/-- Whether the code point lies in one of the ranges, looked for in the groups first. -/
def has (s : CharSet) (n : Nat) : Bool := s.covers n n || s.holds n

/-- Whether no range has any code point between two of them. -/
def avoids (s : CharSet) (a b : Nat) : Bool := s.ranges.all fun r => b.blt r.1 || r.2.blt a

theorem contains_eq_holds (s : CharSet) (c : Char) : s.contains c = s.holds c.toNat := rfl

theorem mem_of_mem_groups {count : Nat} {ranges : List (Nat × Nat)} {group : Nat × List (Nat × Nat)} {r : Nat × Nat}
    (hgroup : group ∈ groups count ranges) (hr : r ∈ group.2) : r ∈ ranges := by
  induction count generalizing ranges with
  | zero =>
      rw [List.mem_singleton.mp hgroup] at hr
      exact hr
  | succ count ih =>
      rcases List.mem_cons.mp hgroup with rfl | hgroup
      · exact List.mem_of_mem_take hr
      · exact List.mem_of_mem_drop (ih hgroup)

theorem holds_of_covers (h : s.covers a b = true) (ha : a ≤ n) (hb : n ≤ b) : s.holds n = true := by
  obtain ⟨group, hgroup, hin⟩ := List.any_eq_true.mp h
  obtain ⟨r, hr, hin⟩ := List.any_eq_true.mp (Bool.and_eq_true_iff.mp hin).2
  rw [Bool.and_eq_true, Nat.ble_eq, Nat.ble_eq] at hin
  refine List.any_eq_true.mpr ⟨r, mem_of_mem_groups hgroup hr, ?_⟩
  simp only [Bool.and_eq_true, decide_eq_true_eq]
  omega

theorem has_eq_holds (s : CharSet) (n : Nat) : s.has n = s.holds n := by
  rw [has, Bool.or_eq_right_iff_imp]
  exact fun hcovers => holds_of_covers hcovers (Nat.le_refl n) (Nat.le_refl n)

theorem contains_eq_has (s : CharSet) (c : Char) : s.contains c = s.has c.toNat := (has_eq_holds s c.toNat).symm

theorem holds_of_avoids (h : s.avoids a b = true) (ha : a ≤ n) (hb : n ≤ b) : s.holds n = false := by
  refine List.any_eq_false.mpr fun r hr => ?_
  have hout := List.all_eq_true.mp h r hr
  rw [Bool.or_eq_true, Nat.blt_eq, Nat.blt_eq] at hout
  simp only [Bool.and_eq_true, decide_eq_true_eq]
  omega

end CharSet

/-! ### Runs -/

namespace CaseRun

variable {run : CaseRun} {s : CharSet} {n : Nat}

/-- The code points that a run maps. -/
def points (run : CaseRun) : List Nat :=
  (List.range ((run.last - run.first) / run.step + 1)).map fun k => run.first + run.step * k

theorem mem_points (h : run.covers n = true) : n ∈ run.points := by
  simp only [covers, Bool.and_eq_true, decide_eq_true_eq, beq_iff_eq] at h
  refine List.mem_map.mpr ⟨(n - run.first) / run.step, List.mem_range.mpr ?_, ?_⟩
  · exact Nat.lt_succ_of_le (Nat.div_le_div_right (by omega))
  · have hsteps := Nat.div_add_mod (n - run.first) run.step
    omega

/-- Whether a run leads to characters. -/
def isScalar (run : CaseRun) : Bool :=
  (run.image run.last).blt 0xD800 || (Nat.blt 0xDFFF (run.image run.first) && (run.image run.last).blt 0x110000)

theorem image_between (h : run.covers n = true) : run.image run.first ≤ run.image n ∧ run.image n ≤ run.image run.last := by
  simp only [covers, Bool.and_eq_true, decide_eq_true_eq] at h
  simp only [image, Int.ofNat_eq_natCast]
  omega

theorem toNat_ofNat_image (hscalar : run.isScalar = true) (h : run.covers n = true) :
    (Char.ofNat (run.image n)).toNat = run.image n := by
  have hbetween := image_between h
  have hvalid : (run.image n).isValidChar := by
    simp only [isScalar, Bool.or_eq_true, Bool.and_eq_true, Nat.blt_eq] at hscalar
    unfold Nat.isValidChar
    omega
  rw [Char.ofNat, dif_pos hvalid]
  rfl

/-- Whether a run leads to characters, and neither into a set nor out of it. -/
def isStable (s : CharSet) (run : CaseRun) : Bool :=
  run.isScalar &&
    ((s.covers run.first run.last && s.covers (run.image run.first) (run.image run.last)) ||
      (s.avoids run.first run.last && s.avoids (run.image run.first) (run.image run.last)) ||
      run.points.all fun n => s.has (run.image n) == s.has n)

theorem isScalar_of_isStable (h : run.isStable s = true) : run.isScalar = true := (Bool.and_eq_true_iff.mp h).1

theorem holds_image (hstable : run.isStable s = true) (h : run.covers n = true) :
    s.holds (run.image n) = s.holds n := by
  have hbetween := image_between h
  have hinside : run.first ≤ n ∧ n ≤ run.last := by
    simp only [covers, Bool.and_eq_true, decide_eq_true_eq] at h
    exact h.1
  simp only [isStable, Bool.or_eq_true, Bool.and_eq_true] at hstable
  rcases hstable.2 with (⟨hfrom, hto⟩ | ⟨hfrom, hto⟩) | hpoints
  · rw [CharSet.holds_of_covers hfrom hinside.1 hinside.2, CharSet.holds_of_covers hto hbetween.1 hbetween.2]
  · rw [CharSet.holds_of_avoids hfrom hinside.1 hinside.2, CharSet.holds_of_avoids hto hbetween.1 hbetween.2]
  · simpa only [CharSet.has_eq_holds, beq_iff_eq] using List.all_eq_true.mp hpoints n (mem_points h)

/-- Whether a set has all that a run maps. -/
def isWithin (s : CharSet) (run : CaseRun) : Bool :=
  s.covers run.first run.last || run.points.all s.has

theorem holds_of_isWithin (hwithin : run.isWithin s = true) (h : run.covers n = true) : s.holds n = true := by
  rw [isWithin, Bool.or_eq_true] at hwithin
  rcases hwithin with hall | hpoints
  · simp only [covers, Bool.and_eq_true, decide_eq_true_eq] at h
    exact CharSet.holds_of_covers hall h.1.1 h.1.2
  · rw [← CharSet.has_eq_holds]
    exact List.all_eq_true.mp hpoints n (mem_points h)

end CaseRun

/-! ### Tables -/

/-- All characters but the underscore. -/
def CharSet.besideUnderscore : CharSet := ⟨[(0, 0x5E), (0x60, 0x10FFFF)]⟩

theorem CharSet.contains_besideUnderscore_iff {c : Char} : besideUnderscore.contains c = true ↔ c ≠ '_' := by
  have hlast : c.toNat ≤ 0x10FFFF := by
    have hvalid : c.toNat.isValidChar := c.valid
    unfold Nat.isValidChar at hvalid
    omega
  have hcode : c = '_' ↔ c.toNat = 0x5F := (Char.toNat_inj (c := c) (d := '_')).symm
  rw [contains_eq_true_iff, Ne, hcode]
  simp only [besideUnderscore, List.mem_cons, List.not_mem_nil, or_false, exists_eq_or_imp, exists_eq_left]
  omega

namespace CaseMap

variable {runs : List CaseRun} {specials : List (Nat × List Nat)} {s : CharSet} {c : Char}

/-- A character has several images, or it has the one of its run. -/
theorem full_cases (specials : List (Nat × List Nat)) (runs : List CaseRun) (c : Char) :
    (∃ entry ∈ specials, entry.1 = c.toNat ∧ full specials runs c = entry.2.map Char.ofNat) ∨
      full specials runs c = [single runs c] := by
  unfold full
  split
  · rename_i code image hentry
    exact .inl ⟨(code, image), List.mem_of_find?_eq_some hentry, by simpa using List.find?_some hentry, rfl⟩
  · exact .inr rfl

theorem contains_single (hruns : runs.all (·.isStable s) = true) (c : Char) : s.contains (single runs c) = s.contains c := by
  unfold single
  split
  · rename_i run hrun
    have hstable := List.all_eq_true.mp hruns run (List.mem_of_find?_eq_some hrun)
    have hcovers : run.covers c.toNat = true := by simpa using List.find?_some hrun
    rw [CharSet.contains_eq_holds, CharSet.contains_eq_holds,
      CaseRun.toNat_ofNat_image (CaseRun.isScalar_of_isStable hstable) hcovers, CaseRun.holds_image hstable hcovers]
  · rfl

/-- Whether a character has all its images in a set just in case it is in the set. -/
def keepsAll (s : CharSet) (specials : List (Nat × List Nat)) (runs : List CaseRun) : Bool :=
  runs.all (·.isStable s) && specials.all fun entry => (entry.2.all fun n => s.has (Char.ofNat n).toNat) == s.has entry.1

/-- Whether a character has its first image in a set just in case it is in the set. -/
def keepsFirst (s : CharSet) (specials : List (Nat × List Nat)) (runs : List CaseRun) : Bool :=
  runs.all (·.isStable s) && specials.all fun entry => (entry.2.head?.any fun n => s.has (Char.ofNat n).toNat) == s.has entry.1

/-- Whether only characters in a set have another image than themselves. -/
def isWithin (s : CharSet) (specials : List (Nat × List Nat)) (runs : List CaseRun) : Bool :=
  runs.all (·.isWithin s) && specials.all fun entry => s.has entry.1

theorem all_full (h : keepsAll s specials runs = true) (c : Char) : (full specials runs c).all s.contains = s.contains c := by
  rw [keepsAll, Bool.and_eq_true] at h
  rcases full_cases specials runs c with ⟨entry, hentry, hcode, hfull⟩ | hfull
  · rw [hfull, CharSet.contains_eq_has s c, ← hcode]
    simpa [Function.comp_def, CharSet.contains_eq_has] using List.all_eq_true.mp h.2 entry hentry
  · rw [hfull, List.all_cons, List.all_nil, Bool.and_true, contains_single h.1]

theorem head?_full (h : keepsFirst s specials runs = true) (c : Char) :
    (full specials runs c).head?.any s.contains = s.contains c := by
  rw [keepsFirst, Bool.and_eq_true] at h
  rcases full_cases specials runs c with ⟨entry, hentry, hcode, hfull⟩ | hfull
  · rw [hfull, CharSet.contains_eq_has s c, ← hcode]
    simpa [Option.any_map, Function.comp_def, funext (CharSet.contains_eq_has s)] using List.all_eq_true.mp h.2 entry hentry
  · rw [hfull, List.head?_cons, Option.any_some, contains_single h.1]

theorem full_eq_self (h : isWithin s specials runs = true) (hc : s.contains c = false) : full specials runs c = [c] := by
  rw [isWithin, Bool.and_eq_true] at h
  rcases full_cases specials runs c with ⟨entry, hentry, hcode, -⟩ | hfull
  · have hheld := List.all_eq_true.mp h.2 entry hentry
    rw [hcode, ← CharSet.contains_eq_has, hc] at hheld
    cases hheld
  · rw [hfull, single]
    split
    · rename_i run hrun
      have hcovers : run.covers c.toNat = true := by simpa using List.find?_some hrun
      have hheld := CaseRun.holds_of_isWithin (List.all_eq_true.mp h.1 run (List.mem_of_find?_eq_some hrun)) hcovers
      rw [← CharSet.contains_eq_holds, hc] at hheld
      cases hheld
    · rfl

theorem underscore_not_mem_full (h : keepsAll .besideUnderscore specials runs = true) (hc : c ≠ '_') :
    '_' ∉ full specials runs c := by
  have hall := all_full h c
  rw [CharSet.contains_besideUnderscore_iff.mpr hc] at hall
  exact fun hmem => CharSet.contains_besideUnderscore_iff.mp (List.all_eq_true.mp hall '_' hmem) rfl

theorem full_ne_nil (h : specials.all (!·.2.isEmpty) = true) (c : Char) : full specials runs c ≠ [] := by
  rcases full_cases specials runs c with ⟨entry, hentry, -, hfull⟩ | hfull
  · simpa [hfull] using List.all_eq_true.mp h entry hentry
  · simp [hfull]

/-! ### The tables of this version -/

section tables

open CharSet

-- Each table is gone through in one evaluation.
theorem lower_checked :
    keepsAll identifierContinue lowerSpecials lowerRuns = true ∧ keepsFirst identifierStart lowerSpecials lowerRuns = true ∧
      keepsAll besideUnderscore lowerSpecials lowerRuns = true ∧ isWithin alphabetic lowerSpecials lowerRuns = true ∧
      lowerSpecials.all (!·.2.isEmpty) = true := by
  decide +kernel

theorem upper_checked :
    keepsAll identifierContinue upperSpecials upperRuns = true ∧ keepsAll besideUnderscore upperSpecials upperRuns = true ∧
      isWithin alphabetic upperSpecials upperRuns = true ∧ upperSpecials.all (!·.2.isEmpty) = true := by
  decide +kernel

theorem all_identifierContinue_lower (c : Char) : (lower c).all identifierContinue.contains = identifierContinue.contains c :=
  all_full lower_checked.1 c

theorem all_identifierContinue_upper (c : Char) : (upper c).all identifierContinue.contains = identifierContinue.contains c :=
  all_full upper_checked.1 c

theorem head?_identifierStart_lower (c : Char) : (lower c).head?.any identifierStart.contains = identifierStart.contains c :=
  head?_full lower_checked.2.1 c

/-- Only the underscore is mapped to it. -/
theorem underscore_not_mem_lower {c : Char} (hc : c ≠ '_') : '_' ∉ lower c :=
  underscore_not_mem_full lower_checked.2.2.1 hc

theorem underscore_not_mem_upper {c : Char} (hc : c ≠ '_') : '_' ∉ upper c :=
  underscore_not_mem_full upper_checked.2.1 hc

/-- Only letters have another letter case. -/
theorem lower_eq_self {c : Char} (hc : alphabetic.contains c = false) : lower c = [c] :=
  full_eq_self lower_checked.2.2.2.1 hc

theorem upper_eq_self {c : Char} (hc : alphabetic.contains c = false) : upper c = [c] :=
  full_eq_self upper_checked.2.2.1 hc

theorem lower_ne_nil (c : Char) : lower c ≠ [] := full_ne_nil lower_checked.2.2.2.2 c

theorem upper_ne_nil (c : Char) : upper c ≠ [] := full_ne_nil upper_checked.2.2.2 c

end tables

end CaseMap

/-! ### Sets within each other -/

namespace CharSet

/-- What is left of some ranges, when others are gone through in order and each takes the next ones that it covers. -/
def uncovered (ranges others : List (Nat × Nat)) : List (Nat × Nat) :=
  others.foldl (fun rest other => rest.dropWhile fun r => other.1.ble r.1 && r.2.ble other.2) ranges

theorem exists_covers_of_uncovered {ranges others : List (Nat × Nat)} (h : uncovered ranges others = []) :
    ∀ r ∈ ranges, ∃ other ∈ others, other.1 ≤ r.1 ∧ r.2 ≤ other.2 := by
  induction others generalizing ranges with
  | nil =>
      intro r hr
      rw [show ranges = [] from h] at hr
      cases hr
  | cons other others ih =>
      intro r hr
      rw [← List.takeWhile_append_dropWhile (p := fun r => other.1.ble r.1 && r.2.ble other.2) (l := ranges),
        List.mem_append] at hr
      rcases hr with htaken | hleft
      · have hcovered := List.all_eq_true.mp List.all_takeWhile r htaken
        rw [Bool.and_eq_true, Nat.ble_eq, Nat.ble_eq] at hcovered
        exact ⟨other, List.mem_cons_self, hcovered⟩
      · obtain ⟨later, hlater, hcovered⟩ := ih h r hleft
        exact ⟨later, List.mem_cons_of_mem _ hlater, hcovered⟩

/-- What may begin an identifier may stand in it. -/
theorem identifierContinue_of_identifierStart {c : Char} (h : identifierStart.contains c = true) :
    identifierContinue.contains c = true := by
  rw [contains_eq_true_iff] at h ⊢
  obtain ⟨r, hr, hlow, hhigh⟩ := h
  have hall : uncovered identifierStart.ranges identifierContinue.ranges = [] := by decide +kernel
  obtain ⟨other, hother, hcovered⟩ := exists_covers_of_uncovered hall r hr
  exact ⟨other, hother, Nat.le_trans hcovered.1 hlow, Nat.le_trans hhigh hcovered.2⟩

end CharSet

end SchemaBinding
