import Mathlib.Data.List.Permutation
import SchemaBinding.Proofs.Generation.Accounts
import SchemaBinding.Proofs.Generation.Blocks
import SchemaBinding.Proofs.Generation.Queue
import SchemaBinding.Proofs.Resolve.Registered

/-!
# `SchemaBinding.Proofs.Generation.HiddenBases`: types that wait for the wrong declaration

A type that is left waiting is reported with the name of its base, as if there were no type of that name. But there may be
one. Bases are looked up in the registry first, which takes a declaration for one that gets generated as soon as it could be
generated. If that declaration stands only inside of types that are not generated, then it hides the type that is
(`HidesBase`).

When the passes are not given up, all declarations that still wait are `Idle`: nothing is known of their bases, and their own
names have not been emitted. So no declaration waits for one that the run comes to and that is called like a generated
type. `unresolved_of_emitted` draws the conclusion: a type waits for the name of a generated one only if the base is
hidden, or if it waits for a second base. And every type with a hidden base waits.

A type that contains an element called like its base waits for this element, and so for itself
(`unresolved_hiddenItem`).
-/

set_option autoImplicit false

namespace SchemaBinding.Run

variable {m r : Model} {names : NameTable} {config : Config}

/-! ### What waits when the passes are over -/

/-- Each declaration in the queue waits for a base of which nothing is known, and its own name has not been emitted. -/
def Idle (m : Model) (s : Run) : Prop :=
  ∀ id ∈ s.postponed, (∃ base, parent? m id = some base ∧ s.state base = .unvisited) ∧
    (m.node id).cleanName ∉ s.report.emitted

/-- A pass that has settled nothing so far has found the queue idle so far. -/
def Idling (m : Model) (s : Moment) : Prop :=
  match s.task with
  | .walk _ | .drain _ => True
  | .pass _ waiting todo =>
      todo.length + s.run.postponed.length ≤ waiting ∧
        (todo.length + s.run.postponed.length = waiting → Idle m s.run)
  | .rest => unsettledQueue ∈ s.run.report.findings ∨ Idle m s.run

/-- A visit settles the declaration, or puts it into the queue under a name that has not been emitted. -/
theorem visit_settles_or_waits (m : Model) (config : Config) (s : Run) (id : NodeId) :
    ((s.visit m config id).state id ≠ .unvisited ∧ (s.visit m config id).postponed = s.postponed) ∨
      (s.visit m config id = s.postpone id ∧ (m.node id).cleanName ∉ s.report.emitted ∧
        ∃ base, parent? m id = some base ∧ s.state base = .unvisited) := by
  by_cases hname : (m.node id).cleanName ∈ s.report.emitted
  · left
    unfold visit
    by_cases hnew : s.state id = .unvisited
    · rw [if_neg (by simpa using hnew), if_pos (by simpa using hname), state_setState, if_pos rfl]
      exact ⟨by decide, rfl⟩
    · rw [if_pos hnew]
      exact ⟨hnew, rfl⟩
  · rcases (visit_outcome m config s id).settles_or_postpones with hsettled | ⟨heq, -, hbase⟩
    · exact .inl hsettled
    · exact .inr ⟨heq, hname, hbase⟩

/-- In a pass that has settled nothing so far, the next visit settles something or leaves the queue idle. -/
theorem Idle.revisit {s : Run} {id : NodeId} {todo : List NodeId} {waiting : Nat}
    (hle : (id :: todo).length + s.postponed.length ≤ waiting)
    (hidle : (id :: todo).length + s.postponed.length = waiting → Idle m s) :
    todo.length + (s.visit m config id).postponed.length ≤ waiting ∧
      (todo.length + (s.visit m config id).postponed.length = waiting → Idle m (s.visit m config id)) := by
  rw [List.length_cons] at hle hidle
  rcases visit_settles_or_waits m config s id with ⟨-, heq⟩ | ⟨heq, hname, base, hbase, hwait⟩
  · rw [heq]
    exact ⟨by omega, fun h => by omega⟩
  · have hlength := length_postpone_le s id
    have hemitted : (s.postpone id).report.emitted = s.report.emitted := by rw [postpone_eq]
    rw [heq]
    refine ⟨by omega, fun hsame x hx => ?_⟩
    rw [hemitted]
    rcases mem_postpone.mp hx with hold | rfl
    · obtain ⟨⟨b, hb, hstate⟩, hnamex⟩ := hidle (by omega) x hold
      exact ⟨⟨b, hb, by rw [state_postpone, hstate]⟩, hnamex⟩
    · exact ⟨⟨base, hbase, by rw [state_postpone, hwait]⟩, hname⟩

theorem Idle.turnQueue {s : Run} (h : Idle m s) : Idle m s.turnQueue :=
  fun id hid => h id (List.mem_reverse.mp hid)

theorem Step.idling {s t : Moment} (h : Step m config s t) (hs : Idling m s) : Idling m t := by
  cases h with
  | visit | walked | passed | batch => trivial
  | drained room s hempty =>
      refine .inr fun id hid => ?_
      rw [hempty] at hid
      cases hid
  | gaveUp s hwait => exact .inl (List.mem_append_right _ (List.mem_singleton_self _))
  | pass room s hwait => exact ⟨by simp [takeQueue], fun _ id hid => by cases hid⟩
  | revisit room waiting id todo s => exact Idle.revisit hs.1 hs.2
  | stuck room waiting s hstuck =>
      -- As many wait as before the pass, and none is left to visit.
      exact .inr (hs.2 (by rw [List.length_nil, Nat.zero_add, hstuck])).turnQueue

/-- In the end the passes have been given up, or what waits is idle. -/
theorem idle_atRest (m : Model) (config : Config) :
    unsettledQueue ∈ (atRest m config).report.findings ∨ Idle m (atRest m config) := by
  have h : Idling m ⟨.rest, atRest m config⟩ :=
    (reached_atRest m config).invariant (P := Idling m) trivial fun _ _ _ hstep hs => hstep.idling hs
  exact h

/-! ### Hidden bases -/

/-- The declaration `x` hides what is generated under the name `base`: the registry gives it for this name, and it could be
generated, but the run does not come to it. -/
def HidesBase (r : Model) (config : Config) (base : String) (x : NodeId) : Prop :=
  r.element? base = some x ∧ (r.node x).isEmittable = true ∧ ¬ Found r config x

/-- The name of a generated declaration is emitted. -/
theorem Begins.cleanName_mem_emitted {id : NodeId} (h : Begins m config id) :
    (m.node id).cleanName ∈ (atRest m config).report.emitted := by
  obtain ⟨before, after, hemitted, -⟩ := h.exists_emitted_eq
  rw [← (generate_report m config).1, hemitted]
  exact List.mem_append_right _ List.mem_cons_self

/-- What the run comes to and what is called like a generated type does not stay without a state. -/
theorem Idle.state_ne_unvisited (hr : r.IsResolved names) (hidle : Idle r (atRest r config)) {x named : NodeId}
    (hx : Found r config x) (hdeclared : x ∈ r.declarations) (hnamed : Begins r config named)
    (hname : (r.node x).name = (r.node named).name) : (atRest r config).state x ≠ .unvisited := by
  intro hstate
  have hwaiting := hx.settled_or_waiting.resolve_left fun h => h hstate
  have hnameddeclared : named ∈ r.declarations :=
    hr.mem_declarations_of_isEmittable hnamed.found.2 hnamed.found.1.isEmittable
  refine (hidle x hwaiting).2 ?_
  rw [hr.cleanName_eq hdeclared, hname, ← hr.cleanName_eq hnameddeclared]
  exact hnamed.cleanName_mem_emitted

/-- A base that is looked up under the name of a generated type, and of which nothing is known in the end, hides it. -/
theorem Idle.hidesBase (hr : r.IsResolved names) (hidle : Idle r (atRest r config)) {x named : NodeId} {base : String}
    (hx : generatedType? r base = some x) (hstate : (atRest r config).state x = .unvisited)
    (hnamed : Begins r config named) (hname : (r.node named).name = base) : HidesBase r config base x := by
  unfold generatedType? at hx
  rcases Option.or_eq_some_iff.mp hx with hregistered | ⟨-, htop⟩
  · obtain ⟨helement, he⟩ := Option.filter_eq_some_iff.mp hregistered
    obtain ⟨hdeclared, hxname⟩ := hr.declared_of_element? helement
    refine ⟨helement, he, fun hfound => ?_⟩
    exact hidle.state_ne_unvisited hr hfound hdeclared hnamed (hxname.trans hname.symm) hstate
  · -- A declaration of the top level does not hide anything, since the run comes to it.
    obtain ⟨he, hxname⟩ := get?_typesByName_eq_some htop
    have hlast : LastOfName r x := get?_typesByName_iff.mp (hxname ▸ htop)
    have hdeclared : x ∈ r.declarations := hr.mem_declarations_of_isEmittable (.single hlast.mem_topLevel) he
    exact absurd hstate (hidle.state_ne_unvisited hr (.topLevel hlast) hdeclared hnamed (hxname.trans hname.symm))

/-- A declaration whose base the run does not come to is not settled, unless its name is emitted. -/
theorem Found.waits {id base : NodeId} (h : Found m config id) (hparent : parent? m id = some base)
    (hbase : ¬ Found m config base) (hname : (m.node id).cleanName ∉ (atRest m config).report.emitted) :
    id ∈ (atRest m config).postponed := by
  have hrest : Reached m config ⟨.rest, atRest m config⟩ := reached_atRest m config
  have hunknown : (atRest m config).state base = .unvisited := by
    by_contra hstate
    exact hbase (hrest.found_of_settled base hstate)
  refine h.settled_or_waiting.resolve_left fun hsettled => ?_
  cases hstate : (atRest m config).state id with
  | unvisited => exact hsettled hstate
  | emitted => exact hname (hrest.called.cleanName_mem id hstate)
  | rejected =>
      -- A rejection has a reason, and each one needs something to be known of the base.
      obtain ⟨refused, hlogged⟩ := hrest.logged
      obtain ⟨d, -, message, hwhy, -⟩ :=
        (exists_mem_of_forall₂ hlogged.findings).1 id ((hlogged.mem_iff id).mpr hstate)
      cases hwhy with
      | base hparent' hrejected =>
          rw [hparent, Option.some.injEq] at hparent'
          rw [← hparent', hunknown] at hrejected
          cases hrejected
      | mixed hready =>
          have hemitted := hready base hparent
          rw [hunknown] at hemitted
          cases hemitted

/-- A declaration waits for what its entry names, or that is not generated and it waits for a second base. -/
theorem parent?_cases {id x : NodeId} (h : parent? m id = some x) :
    generatedType? m (unresolvedEntry m id).2 = some x ∨
      ((m.node id).base = some (unresolvedEntry m id).2 ∧ generatedType? m (unresolvedEntry m id).2 = none ∧
        (m.node id).restrictionBase.bind (generatedType? m) = some x) := by
  simp only [parent?] at h
  unfold unresolvedEntry
  cases hbase : (m.node id).base with
  | none =>
      rw [hbase, Option.bind_none, Option.none_or] at h
      obtain ⟨base, hrestriction, hx⟩ := Option.bind_eq_some_iff.mp h
      rw [hrestriction]
      exact .inl hx
  | some base =>
      rw [hbase, Option.bind_some] at h
      rcases Option.or_eq_some_iff.mp h with hx | ⟨hnone, hx⟩
      · exact .inl hx
      · exact .inr ⟨rfl, hnone, hx⟩

theorem parent?_of_generatedType? {id x : NodeId} {base : String}
    (hbase : (m.node id).base.or (m.node id).restrictionBase = some base) (hx : generatedType? m base = some x) :
    parent? m id = some x := by
  simp only [parent?]
  cases hextension : (m.node id).base with
  | none =>
      rw [hextension, Option.none_or] at hbase
      rw [hbase]
      exact hx
  | some b =>
      rw [hextension, Option.some_or, Option.some.injEq] at hbase
      rw [hbase, Option.bind_some, hx, Option.some_or]

/-- An unresolved entry names a generated type as the base only if the passes have been given up, if that type is hidden, or
if the declaration waits for its second base. In the other direction, each declaration that the run comes to is unresolved if
its base is hidden, unless another one has been generated in its place. -/
theorem unresolved_of_emitted (hr : r.IsResolved names) (config : Config) :
    (∀ entry ∈ (generate config r).report.unresolved, ∀ named, Begins r config named → (r.node named).name = entry.2 →
      unsettledQueue ∈ (generate config r).report.findings ∨
        ∃ id, Found r config id ∧ unresolvedEntry r id = entry ∧
          ((∃ x, HidesBase r config entry.2 x) ∨
            ((r.node id).base = some entry.2 ∧ generatedType? r entry.2 = none ∧
              ∃ x, (r.node id).restrictionBase.bind (generatedType? r) = some x ∧
                (atRest r config).state x = .unvisited))) ∧
      ∀ id base x, Found r config id → (r.node id).base.or (r.node id).restrictionBase = some base →
        HidesBase r config base x → (r.node id).cleanName ∉ (generate config r).report.emitted →
          ((r.node id).cleanName, base) ∈ (generate config r).report.unresolved := by
  constructor
  · rintro entry hentry named hnamed hname
    rcases idle_atRest r config with hgaveUp | hidle
    · left
      rw [(generate_report r config).2.2.2]
      exact List.mem_append_left _ hgaveUp
    · right
      obtain ⟨id, hid, rfl⟩ := mem_unresolved_iff_postponed.mp hentry
      obtain ⟨⟨x, hparent, hstate⟩, -⟩ := hidle id hid
      have hfound := (reached_atRest r config).agenda_found id (mem_agenda_of_postponed hid)
      refine ⟨id, hfound, rfl, ?_⟩
      rcases parent?_cases hparent with hx | ⟨hbase, hnone, hx⟩
      · exact .inl ⟨x, hidle.hidesBase hr hx hstate hnamed hname⟩
      · exact .inr ⟨hbase, hnone, x, hx, hstate⟩
  · rintro id base x hfound hbase ⟨helement, he, hx⟩ hname
    have htype : generatedType? r base = some x := by
      rw [generatedType?, helement, Option.filter_some, if_pos he, Option.some_or]
    have hwaiting := hfound.waits (parent?_of_generatedType? hbase htype) hx hname
    refine mem_unresolved_iff_postponed.mpr ⟨id, hwaiting, ?_⟩
    rw [unresolvedEntry, hbase, Option.getD_some]

/-- The type `Order` extends the type `Item`, and has an element of this name with a type of its own. -/
def writtenHiddenItem : Model where
  nodes := #[taggedNode .schema "schema" false [⟨1⟩, ⟨2⟩],
    { taggedNode .complexType "Item" true [] with attributes := ⟨[("id", .declared "id" "string")]⟩ },
    { taggedNode .complexType "Order" true [⟨3⟩] with base := some "Item" },
    { taggedNode .element "Item" false [] with attributes := ⟨[("sku", .declared "sku" "string")]⟩ }]
  builtins := ⟨""⟩

/-- The same schema when its nodes have types. -/
def typedHiddenItem : Model where
  nodes := #[taggedNode .schema "schema" false [⟨1⟩, ⟨2⟩],
    { taggedNode .complexType "Item" true [] with
      attributes := ⟨[("id", { AttributeDef.declared "id" "string" with resolvedType := some .string })]⟩
      resolvedType := some (.named "Item")
      isComplex := true },
    { taggedNode .complexType "Order" true [⟨3⟩] with
      base := some "Item"
      resolvedType := some (.named "Order")
      isComplex := true },
    { taggedNode .element "Item" false [] with
      attributes := ⟨[("sku", { AttributeDef.declared "sku" "string" with resolvedType := some .string })]⟩
      resolvedType := some (.named "Item")
      isComplex := true }]
  symbols := { elements := .ofList [("Item", ⟨3⟩), ("Order", ⟨2⟩)] }
  builtins := ⟨""⟩

/-- The same schema when it is resolved. -/
def hiddenItem : Model := typedHiddenItem.modifyNode ⟨3⟩ fun n => { n with isExtended := true }

set_option maxRecDepth 20000 in
theorem isResolved_hiddenItem : hiddenItem.IsResolved ∅ := by
  let item := enclosed "complexType" [("name", "Item")] (enclosed "attribute" [("name", "id")] [])
  let inner := enclosed "element" [("name", "Item")]
    (enclosed "complexType" [] (enclosed "attribute" [("name", "sku")] []))
  let order := enclosed "complexType" [("name", "Order")] (enclosed "complexContent" []
    (enclosed "extension" [("base", "Item")] (enclosed "sequence" [] inner)))
  have hread : (Model.ofEvents none (enclosed "schema" [] (item ++ order))).toOption = some writtenHiddenItem := by
    decide +kernel
  let registered : Model := { writtenHiddenItem with symbols := typedHiddenItem.symbols }
  have hids : writtenHiddenItem.declarations = [⟨1⟩, ⟨2⟩, ⟨3⟩] := by cbv
  have hregistered : (Resolved.forEach writtenHiddenItem [⟨1⟩, ⟨2⟩, ⟨3⟩] (registerNode ∅)).model = registered := by
    decide +kernel
  have htyped : (Resolved.forEach registered [⟨1⟩, ⟨2⟩, ⟨3⟩] resolveDeclaration).model = typedHiddenItem := by
    decide +kernel
  exact (Model.isBuilt_of_toOption_eq hread).isResolved_of_passes (by cbv) hids hregistered htyped (by cbv) (by cbv)

theorem report_hiddenItem : (generate {} hiddenItem).report.emitted = ["Item"] ∧
    (generate {} hiddenItem).report.unresolved = [("Order", "Item")] ∧
    unsettledQueue ∉ (generate {} hiddenItem).report.findings := by
  decide +kernel

theorem mem_emittableIds_hiddenItem {id : NodeId} (h : (hiddenItem.node id).isEmittable = true) :
    id = ⟨1⟩ ∨ id = ⟨2⟩ ∨ id = ⟨3⟩ := by
  have hids : emittableIds hiddenItem = [⟨1⟩, ⟨2⟩, ⟨3⟩] := by decide
  simpa [hids] using mem_emittableIds.mpr h

/-- The run does not come to the element, since the type around it is not generated. -/
theorem hidesBase_hiddenItem : HidesBase hiddenItem {} "Item" ⟨3⟩ := by
  refine ⟨by decide, by decide, fun hfound => ?_⟩
  cases hfound with
  | topLevel hlast => exact absurd hlast.mem_topLevel (by decide)
  | @inner owner _ howner hchild =>
      have hemitted := howner.cleanName_mem_emitted
      rw [← (generate_report hiddenItem {}).1, report_hiddenItem.1] at hemitted
      rcases mem_emittableIds_hiddenItem howner.found.1.isEmittable with rfl | rfl | rfl
      · exact absurd hchild (by decide)
      · exact absurd hemitted (by decide)
      · exact absurd hchild (by decide)

theorem begins_hiddenItem : Begins hiddenItem {} ⟨1⟩ := by
  have hname : "Item" ∈ (atRest hiddenItem {}).report.emitted := by
    rw [← (generate_report hiddenItem {}).1, report_hiddenItem.1]
    decide
  obtain ⟨id, hbegins, -, hclean⟩ := (reached_atRest hiddenItem {}).exists_begins "Item" hname
  rcases mem_emittableIds_hiddenItem hbegins.found.1.isEmittable with rfl | rfl | rfl
  · exact hbegins
  · exact absurd hclean (by decide)
  · exact absurd hbegins.found.1 hidesBase_hiddenItem.2.2

/-- The entry of `Order` in the report is one of those that the theorem speaks of. -/
theorem unresolved_of_emitted_hiddenItem :
    hiddenItem.IsResolved ∅ ∧ ("Order", "Item") ∈ (generate {} hiddenItem).report.unresolved ∧
      Begins hiddenItem {} ⟨1⟩ ∧ (hiddenItem.node ⟨1⟩).name = "Item" ∧
      (unsettledQueue ∈ (generate {} hiddenItem).report.findings ∨
        ∃ id, Found hiddenItem {} id ∧ unresolvedEntry hiddenItem id = ("Order", "Item") ∧
          ((∃ x, HidesBase hiddenItem {} "Item" x) ∨
            ((hiddenItem.node id).base = some "Item" ∧ generatedType? hiddenItem "Item" = none ∧
              ∃ x, (hiddenItem.node id).restrictionBase.bind (generatedType? hiddenItem) = some x ∧
                (atRest hiddenItem {}).state x = .unvisited))) := by
  have hentry : ("Order", "Item") ∈ (generate {} hiddenItem).report.unresolved := by
    rw [report_hiddenItem.2.1]
    decide
  exact ⟨isResolved_hiddenItem, hentry, begins_hiddenItem, by decide,
    (unresolved_of_emitted isResolved_hiddenItem {}).1 _ hentry ⟨1⟩ begins_hiddenItem (by decide)⟩

/-- `Order` is unresolved for lack of the base `Item`, although `Item` has been generated and no pass was missing. -/
theorem unresolved_hiddenItem :
    hiddenItem.IsResolved ∅ ∧ Begins hiddenItem {} ⟨1⟩ ∧ (hiddenItem.node ⟨1⟩).name = "Item" ∧
      (generate {} hiddenItem).report.emitted = ["Item"] ∧
      ("Order", "Item") ∈ (generate {} hiddenItem).report.unresolved ∧
      unsettledQueue ∉ (generate {} hiddenItem).report.findings := by
  obtain ⟨hemitted, hunresolved, hpasses⟩ := report_hiddenItem
  exact ⟨isResolved_hiddenItem, begins_hiddenItem, by decide, hemitted, by rw [hunresolved]; decide, hpasses⟩

end SchemaBinding.Run
