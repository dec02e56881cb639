import SchemaBinding.Proofs.Trail
import SchemaBinding.Proofs.Resolve.Typed

/-!
# `SchemaBinding.Proofs.Resolve.ElementChains`: how far the types of elements are followed

The type of a registered element may lead to another one (`Model.nextElement?`), and so on along a trail of names
(`Model.elementTrail?`). Where no other element follows, the type of the last one decides what the whole chain comes down
to, in one of the five ways of `ElementEnd`.

* `elementStep_of_next` and `exists_elementEnd` are one step: it goes on along the trail, or there is an end of one of
  these kinds.
* `chaseElementsFrom_of_end`: a chase that has room for the whole trail comes to its end, with the facets of the end or
  else the last ones on the way (`Model.lastFacets?`).
* `chaseElementsFrom_of_long`: a chase of a longer trail is cut and gives string. So it is for a trail that comes to the
  same name twice, which has no end (`Trail.isSome_of_return`).
* `chaseElements_decided` puts these together.
-/

set_option autoImplicit false

namespace SchemaBinding

/-! ### Trails without a limit -/

namespace Model

/-- The other registered element to which the type of a registered element leads. -/
def nextElement? (m : Model) (name : String) : Option String :=
  match (m.element? name).map fun id => m.builtins.classify (m.node id).declaredType with
  | some (.named next) =>
    if (m.simpleType? next).isNone ∧ next ≠ name ∧ (m.element? next).isSome then some next else none
  | _ => none

/-- The name that is come to from a registered one by following types for so many steps. -/
def elementTrail? (m : Model) (start : String) (steps : Nat) : Option String :=
  Trail.at? m.nextElement? (some start) steps

/-- The facets of a registered element, where it restricts any. -/
def restrictedFacets? (m : Model) (name : String) : Option Facets :=
  ((m.element? name).map fun id => (m.node id).facets).filter (·.isRestricted)

/-- The last restricted facets on the trail from a name, up to a number of steps. -/
def lastFacets? (m : Model) (start : String) (steps : Nat) : Option Facets :=
  ((Trail.upTo m.nextElement? (some start) steps).filterMap m.restrictedFacets?).getLast?

variable {m : Model} {name next : String} {id : NodeId}

theorem nextElement?_eq_some (hid : m.element? name = some id) (hnext : m.nextElement? name = some next) :
    m.builtins.classify (m.node id).declaredType = .named next ∧ m.simpleType? next = none ∧ next ≠ name ∧
      (m.element? next).isSome = true := by
  unfold nextElement? at hnext
  rw [hid, Option.map_some] at hnext
  split at hnext
  · rename_i other htype
    split at hnext
    · rename_i hgoes
      cases hnext
      exact ⟨Option.some.inj htype, Option.isNone_iff_eq_none.mp hgoes.1, hgoes.2⟩
    · cases hnext
  · cases hnext

/-- The facets of the first element count if there are none after it. -/
theorem lastFacets?_succ (hnext : m.nextElement? name = some next) (steps : Nat) :
    m.lastFacets? name (steps + 1) = (m.lastFacets? next steps).or (m.restrictedFacets? name) := by
  unfold lastFacets?
  rw [Trail.upTo_succ, hnext, List.filterMap_cons]
  cases m.restrictedFacets? name with
  | none => exact Option.or_none.symm
  | some facets => exact List.getLast?_cons.trans Option.or_some.symm

theorem lastFacets?_zero (m : Model) (name : String) : m.lastFacets? name 0 = m.restrictedFacets? name := by
  unfold lastFacets?
  rw [Trail.upTo_zero, List.filterMap_cons]
  cases m.restrictedFacets? name with
  | none => rfl
  | some facets => rfl

end Model

/-! ### One step -/

/-- What the type of the last element comes down to, with the findings. -/
inductive ElementEnd (m : Model) (owner name : String) (n : Node) : Resolution → Diagnostics → Prop where
  | primitive {p : Primitive} (htype : m.builtins.classify n.declaredType = .primitive p) :
      ElementEnd m owner name n (.ofPrimitive p) []
  | any (htype : m.builtins.classify n.declaredType = .anyType) : ElementEnd m owner name n { type := .any } []
  | simple {next : String} (htype : m.builtins.classify n.declaredType = .named next)
      (hsimple : (m.simpleType? next).isSome = true) :
      ElementEnd m owner name n (.ofChain next (chaseSimple m owner next).1) (chaseSimple m owner next).2
  /-- The element names itself. -/
  | own (htype : m.builtins.classify n.declaredType = .named name) (hsimple : m.simpleType? name = none) :
      ElementEnd m owner name n (.complex name) []
  | undeclared {next : String} (htype : m.builtins.classify n.declaredType = .named next)
      (hsimple : m.simpleType? next = none) (hother : next ≠ name) (hmissing : m.element? next = none) :
      ElementEnd m owner name n (.ofPrimitive .string) [undeclaredType owner next]

section steps

variable {m : Model} {owner start name next : String} {id : NodeId} {room : Nat} {facets : Option Facets}

/-- Where another element follows, a step goes on to it. -/
theorem elementStep_of_next (hid : m.element? name = some id) (hnext : m.nextElement? name = some next) :
    elementStep m owner name (m.node id) = .onward next := by
  obtain ⟨htype, hsimple, hother, hdeclared⟩ := m.nextElement?_eq_some hid hnext
  simp [elementStep, htype, hsimple, hother, hdeclared]

/-- Where none follows, a step comes to an end. -/
theorem exists_elementEnd (owner : String) (hid : m.element? name = some id) (hend : m.nextElement? name = none) :
    ∃ r findings, elementStep m owner name (m.node id) = .done r findings ∧ ElementEnd m owner name (m.node id) r findings := by
  unfold Model.nextElement? at hend
  rw [hid, Option.map_some] at hend
  cases htype : m.builtins.classify (m.node id).declaredType with
  | primitive p => exact ⟨_, _, by simp only [elementStep, htype], .primitive htype⟩
  | anyType => exact ⟨_, _, by simp only [elementStep, htype], .any htype⟩
  | named next =>
      cases hsimple : m.simpleType? next with
      | some d =>
          have hsome : (m.simpleType? next).isSome = true := by rw [hsimple, Option.isSome_some]
          exact ⟨_, _, by simp only [elementStep, htype, hsome, if_true], .simple htype hsome⟩
      | none =>
          by_cases hself : next = name
          · subst hself
            exact ⟨_, _, by simp [elementStep, htype, hsimple], .own htype hsimple⟩
          · have hmissing : m.element? next = none := by
              simpa [htype, hsimple, hself] using hend
            exact ⟨_, _, by simp [elementStep, htype, hsimple, hself, hmissing], .undeclared htype hsimple hself hmissing⟩

/-- The facets that a chase carries on from a registered element. -/
theorem carriedFacets_eq (hid : m.element? name = some id) :
    (if (m.node id).facets.isRestricted then some (m.node id).facets else facets) = (m.restrictedFacets? name).or facets := by
  unfold Model.restrictedFacets?
  rw [hid, Option.map_some]
  cases hrestricted : (m.node id).facets.isRestricted <;> simp [Option.filter, hrestricted]

/-- A chase at an element from which no other follows. -/
theorem chaseElementsFrom_of_stop {r : Resolution} {findings : Diagnostics} (hid : m.element? name = some id)
    (hstep : elementStep m owner name (m.node id) = .done r findings) :
    chaseElementsFrom m owner start (room + 1) facets name =
      ({ r with facets := r.facets.or ((m.restrictedFacets? name).or facets) }, findings) := by
  rw [chaseElementsFrom, hid]
  simp only [hstep, carriedFacets_eq hid]

/-- A chase at an element from which another follows. -/
theorem chaseElementsFrom_of_next (hid : m.element? name = some id) (hnext : m.nextElement? name = some next) :
    chaseElementsFrom m owner start (room + 1) facets name =
      chaseElementsFrom m owner start room ((m.restrictedFacets? name).or facets) next := by
  rw [chaseElementsFrom, hid]
  simp only [elementStep_of_next hid hnext, carriedFacets_eq hid]

/-! ### All steps -/

/-- A chase with room for the whole trail comes to its end. -/
theorem chaseElementsFrom_of_end (facets : Option Facets) {k : Nat} {last : String}
    (hname : (m.element? name).isSome = true) (hk : k < room) (hlast : m.elementTrail? name k = some last)
    (hend : m.elementTrail? name (k + 1) = none) :
    ∃ id r findings, m.element? last = some id ∧ ElementEnd m owner last (m.node id) r findings ∧
      chaseElementsFrom m owner start room facets name =
        ({ r with facets := r.facets.or ((m.lastFacets? name k).or facets) }, findings) := by
  -- Each step makes the trail shorter at its front, so the end comes one step nearer while the facets are carried on.
  induction room generalizing k facets name with
  | zero => exact absurd hk (Nat.not_lt_zero k)
  | succ room ih =>
      obtain ⟨id, hid⟩ := Option.isSome_iff_exists.mp hname
      unfold Model.elementTrail? at hlast hend
      cases k with
      | zero =>
          have hsame : name = last := Option.some.inj hlast
          obtain ⟨r, findings, hstep, hdone⟩ := exists_elementEnd owner hid (show m.nextElement? name = none from hend)
          refine ⟨id, r, findings, hsame ▸ hid, hsame ▸ hdone, ?_⟩
          rw [chaseElementsFrom_of_stop hid hstep, Model.lastFacets?_zero]
      | succ k =>
          rw [Trail.at?_succ, Option.bind_some] at hlast hend
          cases hnext : m.nextElement? name with
          | none =>
              rw [hnext, Trail.at?_none] at hlast
              cases hlast
          | some next =>
              rw [hnext] at hlast hend
              obtain ⟨x, r, findings, hx, hdone, hchase⟩ :=
                ih ((m.restrictedFacets? name).or facets) (m.nextElement?_eq_some hid hnext).2.2.2
                  (Nat.lt_of_succ_lt_succ hk) hlast hend
              refine ⟨x, r, findings, hx, hdone, ?_⟩
              rw [chaseElementsFrom_of_next hid hnext, hchase, Model.lastFacets?_succ hnext, Option.or_assoc]

/-- A chase of a trail that goes on where the room ends is cut. -/
theorem chaseElementsFrom_of_long (hname : (m.element? name).isSome = true)
    (hlong : (m.elementTrail? name room).isSome = true) :
    chaseElementsFrom m owner start room facets name = (.ofPrimitive .string, [longElementChain owner start]) := by
  induction room generalizing facets name with
  | zero => rfl
  | succ room ih =>
      obtain ⟨id, hid⟩ := Option.isSome_iff_exists.mp hname
      unfold Model.elementTrail? at hlong
      rw [Trail.at?_succ, Option.bind_some] at hlong
      cases hnext : m.nextElement? name with
      | none =>
          rw [hnext, Trail.at?_none] at hlong
          cases hlong
      | some next =>
          rw [hnext] at hlong
          rw [chaseElementsFrom_of_next hid hnext]
          exact ih (m.nextElement?_eq_some hid hnext).2.2.2 hlong

end steps

/-- **How the types of elements are followed.** The last name that is come to in at most `maxAliasHops` steps decides
what the type of a registered element comes down to. Facets are those that its type brings along, or else the last
restricted ones of the elements on the way. A trail that goes on further counts as string, which is so for every trail
that comes to some name twice. A named type is that of a registered declaration which names itself, and never the name
of a simple type, here and wherever else a node is resolved. -/
theorem chaseElements_decided {m : Model} {start : String} (owner : String) (hstart : (m.element? start).isSome = true) :
    let trail := m.elementTrail? start
    let result := chaseElements m owner start
    ((∃ k ≤ maxAliasHops, ∃ last id r findings, trail k = some last ∧ trail (k + 1) = none ∧ m.element? last = some id ∧
        ElementEnd m owner last (m.node id) r findings ∧
          result = ({ r with facets := r.facets.or (m.lastFacets? start k) }, findings)) ∨
      ((trail (maxAliasHops + 1)).isSome = true ∧ result = (.ofPrimitive .string, [longElementChain owner start]))) ∧
      (∀ i j, i < j → (trail i).isSome = true → trail j = trail i →
        result = (.ofPrimitive .string, [longElementChain owner start])) ∧
      (∀ key, result.1.type = .named key → ∃ id, OwnType m key id) ∧
      ∀ n key, (resolveNode m n).1.type = .named key → ∃ id, OwnType m key id := by
  intro trail result
  refine ⟨?_, ?_, fun key hkey => exists_ownType_of_chaseElementsFrom hkey, fun n key => exists_ownType_of_resolveNode⟩
  · rcases Trail.exists_end_or_isSome m.nextElement? start (maxAliasHops + 1) with
      ⟨k, hk, last, hlast, hend⟩ | hlong
    · left
      obtain ⟨id, r, findings, hid, hdone, hresult⟩ := chaseElementsFrom_of_end none hstart hk hlast hend
      rw [Option.or_none] at hresult
      exact ⟨k, Nat.le_of_lt_succ hk, last, id, r, findings, hlast, hend, hid, hdone, hresult⟩
    · exact .inr ⟨hlong, chaseElementsFrom_of_long hstart hlong⟩
  · intro i j hlt hsome hagain
    exact chaseElementsFrom_of_long hstart (Trail.isSome_of_return hlt hsome hagain (maxAliasHops + 1))

/-- A schema where two elements have the type of each other. -/
def mutualElements : Model :=
  { nodes := #[Node.ofKind .schema "schema", { Node.ofKind .element "Box" with rawType := "Lid" },
      { Node.ofKind .element "Lid" with rawType := "Box" }]
    symbols := { elements := ⟨[("Box", ⟨1⟩), ("Lid", ⟨2⟩)]⟩ } }

theorem chaseElements_mutualElements :
    (mutualElements.element? "Box").isSome = true ∧
      mutualElements.elementTrail? "Box" 2 = mutualElements.elementTrail? "Box" 0 ∧
      chaseElements mutualElements "Order" "Box" = (.ofPrimitive .string, [longElementChain "Order" "Box"]) :=
  have hbox : (mutualElements.element? "Box").isSome = true := by decide
  have hagain : mutualElements.elementTrail? "Box" 2 = mutualElements.elementTrail? "Box" 0 := by decide
  ⟨hbox, hagain, (chaseElements_decided "Order" hbox).2.1 0 2 (by decide) (by decide) hagain⟩

end SchemaBinding
