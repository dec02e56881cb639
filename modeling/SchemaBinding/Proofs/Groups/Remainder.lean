import SchemaBinding.Proofs.Groups.Report

/-!
# `SchemaBinding.Proofs.Groups.Remainder`: the references that stay

An expansion is a depth-first search for cycles. The groups on the path are being searched and the known ones are
done.

* Each reference that stays among known particles has a note that names its group (`Expands.accounted`).
* Without a note about a circle, the groups that are done reach no cycle (`Expands.acyclic`).
* References that close cycles of the same groups name the same group (`Expands.apart`). So it does no harm that only
  the first of them is told. The reason is in `Placed`. The path of an earlier note leads from a part of the path at
  hand into groups that are done, and no group on the path is done.
-/

set_option autoImplicit false

namespace SchemaBinding

/-- One of the notes is about a reference to the group. -/
def Noted (notes : List GroupNote) (name : String) : Prop := ∃ note ∈ notes, note.name = name

theorem Noted.append {notes : List GroupNote} {name : String} (h : Noted notes name) (more : List GroupNote) :
    Noted (notes ++ more) name := by
  obtain ⟨note, hnote, hname⟩ := h
  exact ⟨note, List.mem_append_left more hnote, hname⟩

theorem noted_append_singleton (notes : List GroupNote) (note : GroupNote) : Noted (notes ++ [note]) note.name :=
  ⟨note, List.mem_append_right notes List.mem_cons_self, rfl⟩

/-- All references among known particles are noted. -/
def Accounted (m : Model) (known : Table (List NodeId)) (notes : List GroupNote) : Prop :=
  ∀ name particles, known.get? name = some particles →
    ∀ p ∈ particles, ∀ x, (m.node p).referencedGroup? = some x → Noted notes x

theorem Accounted.append {m : Model} {known : Table (List NodeId)} {notes : List GroupNote}
    (h : Accounted m known notes) (more : List GroupNote) : Accounted m known (notes ++ more) :=
  fun name particles hparticles p hp x hx => (h name particles hparticles p hp x hx).append more

/-- Notes about cycles come from the search so far. A path leads from a part of the path at hand into known groups. -/
def Placed (path : List String) (known : Table (List NodeId)) (notes : List GroupNote) : Prop :=
  ∀ path' name, GroupNote.circular path' name ∈ notes →
    ∃ front back, path' = front ++ back ∧ front <+: path ∧ ∀ x ∈ back, known.Has x

/-- References that close cycles of the same groups name the same group. -/
def Apart (notes : List GroupNote) : Prop :=
  ∀ path name path' name', GroupNote.circular path name ∈ notes → GroupNote.circular path' name' ∈ notes →
    (loopOf path name).Perm (loopOf path' name') → name = name'

theorem Placed.enter {path : List String} {known : Table (List NodeId)} {notes : List GroupNote}
    (h : Placed path known notes) (name : String) : Placed (path ++ [name]) known notes := by
  intro path' name' hnote
  obtain ⟨front, back, heq, hfront, hback⟩ := h path' name' hnote
  exact ⟨front, back, heq, hfront.trans (List.prefix_append path [name]), hback⟩

/-- A group is done when it comes off the path. -/
theorem Placed.leave {path : List String} {name : String} {known : Table (List NodeId)} {notes : List GroupNote}
    (h : Placed (path ++ [name]) known notes) (particles : List NodeId) :
    Placed path (known.insert name particles) notes := by
  intro path' name' hnote
  obtain ⟨front, back, heq, hfront, hback⟩ := h path' name' hnote
  have hdone : ∀ x ∈ back, (known.insert name particles).Has x :=
    fun x hx => Table.has_insert.mpr (Or.inr (hback x hx))
  rcases List.prefix_concat_iff.mp hfront with rfl | hfront
  · refine ⟨path, name :: back, by rw [heq, List.append_assoc, List.singleton_append], List.prefix_refl path, ?_⟩
    intro x hx
    rcases List.mem_cons.mp hx with rfl | hx
    · exact Table.has_insert.mpr (Or.inl rfl)
    · exact hdone x hx
  · exact ⟨front, back, heq, hfront, hdone⟩

/-- A note about a cycle is placed where it is made. -/
theorem Placed.concat {path : List String} {known : Table (List NodeId)} {notes : List GroupNote}
    (h : Placed path known notes) (name : String) : Placed path known (notes ++ [.circular path name]) := by
  intro path' name' hnote
  rcases List.mem_append.mp hnote with hnote | hnote
  · exact h path' name' hnote
  · cases List.mem_singleton.mp hnote
    exact ⟨path, [], (List.append_nil path).symm, List.prefix_refl path, by simp⟩

/-- One more reference closes a cycle, and earlier ones with the same groups have its name. -/
theorem Apart.concat {path : List String} {name : String} {notes : List GroupNote} (h : Apart notes)
    (hone : ∀ path' name', .circular path' name' ∈ notes → (loopOf path name).Perm (loopOf path' name') →
      name = name') : Apart (notes ++ [.circular path name]) := by
  intro path₁ name₁ path₂ name₂ hnote₁ hnote₂ hperm
  rcases List.mem_append.mp hnote₁ with hnote₁ | hnote₁
  · rcases List.mem_append.mp hnote₂ with hnote₂ | hnote₂
    · exact h _ _ _ _ hnote₁ hnote₂ hperm
    · cases List.mem_singleton.mp hnote₂
      exact (hone _ _ hnote₁ hperm.symm).symm
  · cases List.mem_singleton.mp hnote₁
    rcases List.mem_append.mp hnote₂ with hnote₂ | hnote₂
    · exact hone _ _ hnote₂ hperm
    · cases List.mem_singleton.mp hnote₂
      rfl

/-! ### One cycle, one name -/

theorem getLast_mem_loopOf {path : List String} {name : String} (h : name ∈ path) :
    path.getLast (List.ne_nil_of_mem h) ∈ loopOf path name := by
  obtain ⟨rest, hrest⟩ := exists_loopOf_eq_cons h
  have hne : loopOf path name ≠ [] := by
    rw [hrest]
    exact List.cons_ne_nil name rest
  rw [← (loopOf_suffix path name).getLast hne]
  exact List.getLast_mem hne

/-- On one path without repetition, cycles of the same groups begin at the same group. -/
theorem eq_of_loopOf_perm {path : List String} {name name' : String} (h : name ∈ path)
    (h' : name' ∈ path) (hperm : (loopOf path name).Perm (loopOf path name')) : name = name' := by
  obtain ⟨rest, hrest⟩ := exists_loopOf_eq_cons h
  obtain ⟨rest', hrest'⟩ := exists_loopOf_eq_cons h'
  have hsuffix : loopOf path name <:+ loopOf path name' :=
    List.suffix_of_suffix_length_le (loopOf_suffix path name) (loopOf_suffix path name') hperm.length_eq.le
  have heq := hsuffix.eq_of_length hperm.length_eq
  rw [hrest, hrest'] at heq
  exact (List.cons.inj heq).1

/-- A cycle that is closed by an earlier reference and by one at the end of the path has one name. -/
theorem name_eq_of_loopOf_perm {path front back : List String} {known : Table (List NodeId)} {name name' : String}
    (hnodup : path.Nodup) (h : name ∈ path) (hoff : ∀ x ∈ path, ¬ known.Has x) (hfront : front <+: path)
    (hback : ∀ x ∈ back, known.Has x) (h' : name' ∈ front ++ back)
    (hperm : (loopOf path name).Perm (loopOf (front ++ back) name')) : name = name' := by
  have hpath : ∀ x ∈ loopOf (front ++ back) name', x ∈ path :=
    fun x hx => (loopOf_suffix path name).subset (hperm.mem_iff.mpr hx)
  -- The last group of the earlier path is on the cycle, and so on the path. It is not done.
  have hnil : back = [] := by
    by_cases hne : back = []
    · exact hne
    · have hlast := getLast_mem_loopOf h'
      rw [List.getLast_append_of_ne_nil _ hne] at hlast
      exact absurd (hback _ (List.getLast_mem hne)) (hoff _ (hpath _ hlast))
  subst hnil
  rw [List.append_nil] at h' hperm
  -- The last group of the path is on the cycle, and so on the earlier path, which is all of the path therefore.
  obtain ⟨rest, rfl⟩ := hfront
  have hrest : rest = [] := by
    by_cases hne : rest = []
    · exact hne
    · have hlast := getLast_mem_loopOf h
      rw [List.getLast_append_of_ne_nil _ hne] at hlast
      have hmem := (loopOf_suffix front name').subset (hperm.mem_iff.mp hlast)
      exact absurd rfl ((List.nodup_append.mp hnodup).2.2 _ hmem _ (List.getLast_mem hne))
  subst hrest
  rw [List.append_nil] at h hperm
  exact eq_of_loopOf_perm h h' hperm

/-! ### What an expansion keeps -/

namespace Expands

variable {m : Model} {room : Nat} {path : List String} {known after : Table (List NodeId)} {task : GroupTask}
  {result : Option (List NodeId)} {notes : List GroupNote}

/-- All references that stay are noted. -/
theorem accounted (h : Expands m room path known task result notes after) {before : List GroupNote}
    (hknown : Accounted m known before) :
    Accounted m after (before ++ notes) ∧
      (result = none → ∀ x, task.Needs m x → Noted (before ++ notes) x) ∧
      ∀ particles, result = some particles →
        ∀ p ∈ particles, ∀ x, (m.node p).referencedGroup? = some x → Noted (before ++ notes) x := by
  induction h generalizing before with
  | remembered hparticles =>
      refine ⟨hknown.append [], fun hnone => (by cases hnone), ?_⟩
      rintro _ ⟨⟩ p hp x hx
      exact (hknown _ _ hparticles p hp x hx).append []
  | circular | deep | unknown =>
      refine ⟨hknown.append _, ?_, fun _ hsome => (by cases hsome)⟩
      rintro - x rfl
      exact noted_append_singleton before _
  | @defined room path known name id particles notes after hnew hpath hid hbody ih =>
      obtain ⟨hafter, -, hparticles⟩ := ih hknown
      exact ⟨Table.forall_get?_insert hafter (hparticles particles rfl), fun hnone => (by cases hnone), hparticles⟩
  | nil =>
      refine ⟨hknown.append [], fun hnone => (by cases hnone), ?_⟩
      rintro _ ⟨⟩ p hp
      cases hp
  | particle hid hrest ih =>
      obtain ⟨hafter, -, hothers⟩ := ih hknown
      refine ⟨hafter, fun hnone => (by cases hnone), ?_⟩
      rintro _ ⟨⟩ p hp x hx
      rcases List.mem_cons.mp hp with rfl | hp
      · rw [hid] at hx
        cases hx
      · exact hothers _ rfl p hp x hx
  | @reference room path known id rest name content notes after others more last hid hgroup hrest ihgroup ihrest =>
      obtain ⟨hbetween, hnone, hcontent⟩ := ihgroup hknown
      obtain ⟨hlast, -, hothers⟩ := ihrest hbetween
      rw [List.append_assoc] at hlast hothers
      refine ⟨hlast, fun hnone => (by cases hnone), ?_⟩
      rintro _ ⟨⟩ p hp x hx
      rcases List.mem_append.mp hp with hp | hp
      · rw [← List.append_assoc]
        refine Noted.append ?_ more
        cases content with
        | none =>
            rw [List.mem_singleton.mp hp] at hx
            cases Option.some.inj (hid.symm.trans hx)
            exact hnone rfl name rfl
        | some particles => exact hcontent particles rfl p hp x hx
      · exact hothers others rfl p hp x hx

/-- If no circle is noted, then the groups that are done reach no cycle. -/
theorem acyclic (h : Expands m room path known task result notes after) (hfit : FitsDepth m)
    (hentered : Entered m room path task) (hquiet : ∀ path name, .circular path name ∉ notes)
    (hknown : ∀ x, known.Has x → ReachesNoCycle m x) :
    (∀ x, after.Has x → ReachesNoCycle m x) ∧ ∀ x, task.Needs m x → ReachesNoCycle m x := by
  induction h with
  | remembered hparticles =>
      refine ⟨hknown, ?_⟩
      rintro x rfl
      exact hknown x (Table.has_of_get?_eq hparticles)
  | circular hnew hpath => exact absurd List.mem_cons_self (hquiet _ _)
  | deep hnew hpath =>
      -- There is room for every declared group, so this one has no definition.
      refine ⟨hknown, ?_⟩
      rintro x rfl
      exact reachesNoCycle_of_not_isDeclared fun hdeclared => hentered.room_ne_zero hfit hpath hdeclared rfl
  | unknown hnew hpath hnone =>
      refine ⟨hknown, ?_⟩
      rintro x rfl
      exact reachesNoCycle_of_not_isDeclared hnone
  | @defined room path known name id particles notes after hnew hpath hid hbody ih =>
      obtain ⟨hafter, htargets⟩ := ih (hentered.body hpath hid) hquiet hknown
      have hname : ReachesNoCycle m name := by
        refine reachesNoCycle_of_targets ?_
        rintro target ⟨id', hid', htarget⟩
        rw [Option.some.inj (hid'.symm.trans hid)] at htarget
        exact htargets target htarget
      refine ⟨?_, ?_⟩
      · intro x hx
        rcases Table.has_insert.mp hx with rfl | hx
        · exact hname
        · exact hafter x hx
      · rintro x rfl
        exact hname
  | nil =>
      refine ⟨hknown, ?_⟩
      rintro x ⟨child, hchild, -⟩
      cases hchild
  | particle hid hrest ih =>
      obtain ⟨hafter, hneeds⟩ := ih hentered.rest hquiet hknown
      refine ⟨hafter, ?_⟩
      rintro x ⟨child, hchild, hx⟩
      rcases List.mem_cons.mp hchild with rfl | hchild
      · rw [hid] at hx
        cases hx
      · exact hneeds x ⟨child, hchild, hx⟩
  | reference hid hgroup hrest ihgroup ihrest =>
      obtain ⟨hbetween, hname⟩ := ihgroup (hentered.group hid)
        (fun path name hnote => hquiet path name (List.mem_append_left _ hnote)) hknown
      obtain ⟨hlast, hneeds⟩ := ihrest hentered.rest
        (fun path name hnote => hquiet path name (List.mem_append_right _ hnote)) hbetween
      refine ⟨hlast, ?_⟩
      rintro x ⟨child, hchild, hx⟩
      rcases List.mem_cons.mp hchild with rfl | hchild
      · cases Option.some.inj (hid.symm.trans hx)
        exact hname _ rfl
      · exact hneeds x ⟨child, hchild, hx⟩

/-- Earlier notes stay placed, and cycles of the same groups keep one name. -/
theorem apart (h : Expands m room path known task result notes after) (hentered : Entered m room path task)
    (hoff : ∀ x ∈ path, ¬ known.Has x) {before : List GroupNote}
    (hvalid : ∀ path name, .circular path name ∈ before → name ∈ path) (hplaced : Placed path known before)
    (hapart : Apart before) : Placed path after (before ++ notes) ∧ Apart (before ++ notes) := by
  induction h generalizing before with
  | remembered | nil =>
      rw [List.append_nil]
      exact ⟨hplaced, hapart⟩
  | @circular room path known name hnew hpath =>
      refine ⟨hplaced.concat name, hapart.concat fun path' name' hnote hperm => ?_⟩
      obtain ⟨front, back, rfl, hfront, hback⟩ := hplaced path' name' hnote
      exact name_eq_of_loopOf_perm hentered.nodup hpath hoff hfront hback (hvalid _ _ hnote) hperm
  | deep | unknown =>
      refine ⟨fun path' name' hnote => hplaced path' name' (by simpa using hnote), ?_⟩
      intro path₁ name₁ path₂ name₂ hnote₁ hnote₂
      exact hapart _ _ _ _ (by simpa using hnote₁) (by simpa using hnote₂)
  | @defined room path known name id particles notes after hnew hpath hid hbody ih =>
      have hoff' : ∀ x ∈ path ++ [name], ¬ known.Has x := by
        intro x hx
        rcases List.mem_append.mp hx with hx | hx
        · exact hoff x hx
        · rwa [List.mem_singleton.mp hx]
      obtain ⟨hafter, hapart'⟩ := ih (hentered.body hpath hid) hoff' hvalid (hplaced.enter name) hapart
      exact ⟨hafter.leave particles, hapart'⟩
  | particle hid hrest ih => exact ih hentered.rest hoff hvalid hplaced hapart
  | @reference room path known id rest name content notes after others more last hid hgroup hrest ihgroup ihrest =>
      obtain ⟨hbetween, hapart'⟩ := ihgroup (hentered.group hid) hoff hvalid hplaced hapart
      rw [← List.append_assoc]
      refine ihrest hentered.rest (fun x hx => hgroup.not_has_of_mem hx (hoff x hx)) ?_ hbetween hapart'
      intro path' name' hnote
      rcases List.mem_append.mp hnote with hnote | hnote
      · exact hvalid path' name' hnote
      · exact (hgroup.valid (hentered.group hid) hnote).2.1

end Expands

/-! ### What the opening keeps -/

namespace Opening

variable {m : Model} {names : List String} {notes : List GroupNote} {known : Table (List NodeId)}

theorem accounted (h : Opening m names notes known) : Accounted m known notes := by
  induction h with
  | start => exact fun name particles hparticles => absurd hparticles (Table.get?_empty_ne name particles)
  | next hbefore hdeclared hgroup ih => exact (hgroup.accounted ih).1

theorem acyclic (h : Opening m names notes known) (hfit : FitsDepth m)
    (hquiet : ∀ path name, .circular path name ∉ notes) {x : String} (hx : known.Has x) : ReachesNoCycle m x := by
  induction h generalizing x with
  | start => exact absurd hx (Table.not_has_empty x)
  | next hbefore hdeclared hgroup ih =>
      have hknown := @ih fun path name hnote => hquiet path name (List.mem_append_left _ hnote)
      have hmore := fun path name hnote => hquiet path name (List.mem_append_right _ hnote)
      exact (hgroup.acyclic hfit (entered_of_isDeclared hdeclared) hmore fun x hx => hknown hx).1 x hx

theorem apart (h : Opening m names notes known) : Placed [] known notes ∧ Apart notes := by
  induction h with
  | start => exact ⟨fun path name hnote => (by cases hnote), fun path name path' name' hnote => (by cases hnote)⟩
  | next hbefore hdeclared hgroup ih =>
      exact hgroup.apart (entered_of_isDeclared hdeclared) (by simp)
        (fun path name hnote => (hbefore.valid hnote).2.1) ih.1 ih.2

end Opening

end SchemaBinding
