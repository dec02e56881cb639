import SchemaBinding.Resolve.TypeChains
import SchemaBinding.Proofs.Trail

/-!
# `SchemaBinding.Proofs.Resolve.SimpleChains`: how far a simple type is followed

`simpleTypeAt?` says which definition is come to from a name by following bases, for any number of steps. A chase goes
along these definitions and stops after `maxAliasHops` steps (`simpleTypesWithin`).

* `chaseSimpleFrom_cases` is one step: the name is not declared, the chain ends at its definition, or it goes on.
* `primitive_chaseSimpleFrom_iff`: a chase gives a built-in type if and only if a definition within reach has it as its
  base.
* `chain_chaseSimpleFrom`: flags and facets are put together from exactly the definitions within reach.
* `findings_chaseSimpleFrom_iff`: a chase is cut if and only if there is a definition one step out of reach. A chain that
  comes back to a definition has no end (`Trail.isSome_of_return`), so a chase of it is cut.
* `chaseSimple_follows` puts these together.
-/

set_option autoImplicit false

namespace SchemaBinding

open Text (quoted)

/-! ### Chains without a limit -/

namespace SimpleTypeDef

/-- The built-in type that is the base of a definition. -/
def builtinBase? (m : Model) (d : SimpleTypeDef) : Option Primitive :=
  match d.base.map m.builtins.classify with
  | some (.primitive p) => some p
  | _ => none

/-- The simple type that the base of a definition names. -/
def next? (m : Model) (d : SimpleTypeDef) : Option SimpleTypeDef :=
  match d.base.map m.builtins.classify with
  | some (.named name) => m.simpleType? name
  | _ => none

theorem builtinBase?_eq_some_iff {m : Model} {d : SimpleTypeDef} {p : Primitive} :
    d.builtinBase? m = some p ↔ d.base.map m.builtins.classify = some (.primitive p) := by
  unfold builtinBase?
  split
  · rename_i q hq
    rw [hq, Option.some.injEq, Option.some.injEq, TypeRef.primitive.injEq]
  · rename_i hnone
    exact ⟨nofun, fun h => absurd h (hnone p)⟩

theorem next?_of_named {m : Model} {d : SimpleTypeDef} {next : String}
    (hbase : d.base.map m.builtins.classify = some (.named next)) : d.next? m = m.simpleType? next := by
  rw [next?, hbase]

theorem exists_of_next?_eq_some {m : Model} {d later : SimpleTypeDef} (h : d.next? m = some later) :
    ∃ name, d.base.map m.builtins.classify = some (.named name) ∧ m.simpleType? name = some later := by
  unfold next? at h
  split at h
  · rename_i name hname
    exact ⟨name, hname, h⟩
  · cases h

end SimpleTypeDef

/-- The definition that is come to by following bases from a name for so many steps. -/
def simpleTypeAt? (m : Model) (start : String) (steps : Nat) : Option SimpleTypeDef :=
  Trail.at? (·.next? m) (m.simpleType? start) steps

/-- The definitions that are come to in at most so many steps, in order. -/
def simpleTypesWithin (m : Model) (start : String) (steps : Nat) : List SimpleTypeDef :=
  Trail.upTo (·.next? m) (m.simpleType? start) steps

section positions

variable {m : Model} {name next start : String} {d : SimpleTypeDef}

theorem simpleTypeAt?_zero : simpleTypeAt? m start 0 = m.simpleType? start := rfl

/-- Where the base names a simple type, the chain of that name is the rest of the chain. -/
theorem simpleTypeAt?_succ (hd : m.simpleType? name = some d)
    (hbase : d.base.map m.builtins.classify = some (.named next)) (k : Nat) :
    simpleTypeAt? m name (k + 1) = simpleTypeAt? m next k := by
  unfold simpleTypeAt?
  rw [Trail.at?_succ, hd, Option.bind_some, SimpleTypeDef.next?_of_named hbase]

theorem simpleTypeAt?_of_undeclared (hnone : m.simpleType? name = none) (k : Nat) : simpleTypeAt? m name k = none := by
  rw [simpleTypeAt?, hnone, Trail.at?_none]

theorem simpleTypeAt?_succ_of_end (hd : m.simpleType? name = some d) (hend : d.next? m = none) (k : Nat) :
    simpleTypeAt? m name (k + 1) = none := by
  rw [simpleTypeAt?, Trail.at?_succ, hd, Option.bind_some, hend, Trail.at?_none]

/-- The definitions within reach of a name: its own, and those within reach of the name of its base. -/
theorem simpleTypesWithin_of_next (hd : m.simpleType? name = some d)
    (hbase : d.base.map m.builtins.classify = some (.named next)) (steps : Nat) :
    simpleTypesWithin m name (steps + 1) = d :: simpleTypesWithin m next steps := by
  unfold simpleTypesWithin
  rw [hd, Trail.upTo_succ, SimpleTypeDef.next?_of_named hbase]

theorem simpleTypesWithin_of_end (hd : m.simpleType? name = some d) (hend : d.next? m = none) (steps : Nat) :
    simpleTypesWithin m name steps = [d] := by
  rw [simpleTypesWithin, hd, Trail.upTo_of_end hend]

theorem simpleTypesWithin_zero (hd : m.simpleType? name = some d) : simpleTypesWithin m name 0 = [d] := by
  rw [simpleTypesWithin, hd, Trail.upTo_zero]

theorem simpleTypesWithin_of_undeclared (hnone : m.simpleType? name = none) (steps : Nat) :
    simpleTypesWithin m name steps = [] := by
  rw [simpleTypesWithin, hnone, Trail.upTo_none]

end positions

/-! ### What a chain puts together -/

namespace SimpleChain

theorem isList_foldl_extend (c : SimpleChain) (ds : List SimpleTypeDef) :
    (ds.foldl extend c).isList = (c.isList || ds.any (·.isList)) := by
  induction ds generalizing c with
  | nil => simp
  | cons d rest ih => simp [ih, extend, Bool.or_assoc]

theorem collapseWhiteSpace_foldl_extend (c : SimpleChain) (ds : List SimpleTypeDef) :
    (ds.foldl extend c).collapseWhiteSpace = (c.collapseWhiteSpace || ds.any (·.collapseWhiteSpace)) := by
  induction ds generalizing c with
  | nil => simp
  | cons d rest ih => simp [ih, extend, Bool.or_assoc]

/-- The first restricted facets count, and those that are there already come before all others. -/
theorem facets_foldl_extend (c : SimpleChain) (ds : List SimpleTypeDef) :
    (ds.foldl extend c).facets = c.facets.or ((ds.find? (·.facets.isRestricted)).map (·.facets)) := by
  induction ds generalizing c with
  | nil => simp
  | cons d rest ih =>
      rw [List.foldl_cons, ih, List.find?_cons, extend]
      cases hc : c.facets <;> cases hd : d.facets.isRestricted <;> simp

end SimpleChain

/-! ### One step of a chase -/

section chase

variable {m : Model} {owner start name : String} {chain : SimpleChain} {room : Nat} {p : Primitive}

/-- The findings of a chain that comes to an end are none, or one on the base of the last definition. -/
theorem longSimpleChain_ne_baseNotSimple (base : String) :
    longSimpleChain owner start ≠ baseNotSimple owner base name := by
  intro heq
  have hfirst := congrArg (fun d : Diagnostic => d.message.toList[0]?) heq
  simp [longSimpleChain, baseNotSimple, Diagnostics.warning] at hfirst

theorem longSimpleChain_ne_undeclaredSimpleType : longSimpleChain owner start ≠ undeclaredSimpleType owner name := by
  intro heq
  have hlater := congrArg (fun d : Diagnostic => d.message.toList[12]?) heq
  simp [longSimpleChain, undeclaredSimpleType, Diagnostics.warning, quoted] at hlater

/-- A chase ends at a definition whose base names no simple type. -/
theorem chaseSimpleFrom_of_end {d : SimpleTypeDef} (hd : m.simpleType? name = some d) (hend : d.next? m = none) :
    (chaseSimpleFrom m owner start room chain name).1 =
        { chain.extend d with primitive := (d.builtinBase? m).or chain.primitive } ∧
      (chaseSimpleFrom m owner start room chain name).2 ≠ [longSimpleChain owner start] := by
  unfold chaseSimpleFrom SimpleTypeDef.builtinBase?
  unfold SimpleTypeDef.next? at hend
  simp only [hd]
  rcases hbase : d.base.map m.builtins.classify with _ | (p | _ | next)
  · simp [SimpleChain.extend]
  · simp
  · simp [SimpleChain.extend]
  · rw [hbase] at hend
    have hmissing : m.simpleType? next = none := hend
    simp [hmissing, SimpleChain.extend, (longSimpleChain_ne_baseNotSimple next).symm]

/-- A chase goes on with a base that names one, if there is room. -/
theorem chaseSimpleFrom_succ_of_next {d : SimpleTypeDef} {next : String} (hd : m.simpleType? name = some d)
    (hbase : d.base.map m.builtins.classify = some (.named next)) (hnext : (m.simpleType? next).isSome = true) :
    chaseSimpleFrom m owner start (room + 1) chain name = chaseSimpleFrom m owner start room (chain.extend d) next := by
  have hdeclared : (m.simpleType? next).isNone = false := by simpa using hnext
  rw [chaseSimpleFrom, hd]
  simp only [hbase, hdeclared, Bool.false_eq_true, if_false]

/-- Without room it is cut there. -/
theorem chaseSimpleFrom_zero_of_next {d : SimpleTypeDef} {next : String} (hd : m.simpleType? name = some d)
    (hbase : d.base.map m.builtins.classify = some (.named next)) (hnext : (m.simpleType? next).isSome = true) :
    chaseSimpleFrom m owner start 0 chain name =
      ({ chain.extend d with primitive := none }, [longSimpleChain owner start]) := by
  have hdeclared : (m.simpleType? next).isNone = false := by simpa using hnext
  rw [chaseSimpleFrom, hd]
  simp only [hbase, hdeclared, Bool.false_eq_true, if_false]

/-- What a chase meets at a name: nothing, or a definition where it ends, or one from which it could go on. -/
theorem chaseSimpleFrom_cases (m : Model) (owner start : String) (room : Nat) (chain : SimpleChain) (name : String) :
    (m.simpleType? name = none ∧
      chaseSimpleFrom m owner start room chain name = (chain, [undeclaredSimpleType owner name])) ∨
    (∃ d, m.simpleType? name = some d ∧ d.next? m = none ∧
      (chaseSimpleFrom m owner start room chain name).1 =
        { chain.extend d with primitive := (d.builtinBase? m).or chain.primitive } ∧
      (chaseSimpleFrom m owner start room chain name).2 ≠ [longSimpleChain owner start]) ∨
    ∃ d next, m.simpleType? name = some d ∧ d.base.map m.builtins.classify = some (.named next) ∧
      (m.simpleType? next).isSome = true := by
  cases hd : m.simpleType? name with
  | none =>
      left
      refine ⟨rfl, ?_⟩
      unfold chaseSimpleFrom
      rw [hd]
  | some d =>
      right
      cases hend : d.next? m with
      | none => exact .inl ⟨d, rfl, hend, chaseSimpleFrom_of_end hd hend⟩
      | some later =>
          obtain ⟨next, hbase, hnext⟩ := SimpleTypeDef.exists_of_next?_eq_some hend
          exact .inr ⟨d, next, rfl, hbase, by rw [hnext, Option.isSome_some]⟩

/-! ### All steps of a chase -/

/-- A chase gives a built-in type if and only if a definition within reach has this type as its base. -/
theorem primitive_chaseSimpleFrom_iff (hchain : chain.primitive = none) :
    (chaseSimpleFrom m owner start room chain name).1.primitive = some p ↔
      ∃ k ≤ room, ∃ d, simpleTypeAt? m name k = some d ∧ d.builtinBase? m = some p := by
  -- No definition but the last one sets the type, so the chain put together so far stays without one.
  induction room generalizing chain name with
  | zero =>
      have hfirst : (∃ k ≤ 0, ∃ d, simpleTypeAt? m name k = some d ∧ d.builtinBase? m = some p) ↔
          ∃ d, m.simpleType? name = some d ∧ d.builtinBase? m = some p := by
        simp [simpleTypeAt?_zero]
      rw [hfirst]
      rcases chaseSimpleFrom_cases m owner start 0 chain name with ⟨hd, hchase⟩ | ⟨d, hd, -, hchase, -⟩ |
        ⟨d, next, hd, hbase, hnext⟩
      · simp [hchase, hd, hchain]
      · simp [hchase, hd, hchain]
      · simp [chaseSimpleFrom_zero_of_next hd hbase hnext, hd, SimpleTypeDef.builtinBase?, hbase]
  | succ room ih =>
      -- The definition is that of the name, or it is come to from the next name.
      have hsplit : (∃ k ≤ room + 1, ∃ d, simpleTypeAt? m name k = some d ∧ d.builtinBase? m = some p) ↔
          (∃ d, m.simpleType? name = some d ∧ d.builtinBase? m = some p) ∨
            ∃ k ≤ room, ∃ d, simpleTypeAt? m name (k + 1) = some d ∧ d.builtinBase? m = some p := by
        constructor
        · rintro ⟨k, hk, d, hd⟩
          cases k with
          | zero => exact .inl ⟨d, hd⟩
          | succ k => exact .inr ⟨k, Nat.le_of_succ_le_succ hk, d, hd⟩
        · rintro (⟨d, hd⟩ | ⟨k, hk, d, hd⟩)
          · exact ⟨0, Nat.zero_le _, d, hd⟩
          · exact ⟨k + 1, Nat.succ_le_succ hk, d, hd⟩
      rw [hsplit]
      rcases chaseSimpleFrom_cases m owner start (room + 1) chain name with ⟨hd, hchase⟩ | ⟨d, hd, hend, hchase, -⟩ |
        ⟨d, next, hd, hbase, hnext⟩
      · simp [hchase, hd, hchain, simpleTypeAt?_of_undeclared hd]
      · simp [hchase, hd, hchain, simpleTypeAt?_succ_of_end hd hend]
      · rw [chaseSimpleFrom_succ_of_next hd hbase hnext, ih (show (chain.extend d).primitive = none from hchain)]
        simp [hd, SimpleTypeDef.builtinBase?, hbase, simpleTypeAt?_succ hd hbase]

/-- A chase puts the definitions within reach together, in order. -/
theorem chain_chaseSimpleFrom (m : Model) (owner start : String) (room : Nat) (chain : SimpleChain) (name : String) :
    { (chaseSimpleFrom m owner start room chain name).1 with primitive := none } =
      { (simpleTypesWithin m name room).foldl SimpleChain.extend chain with primitive := none } := by
  -- The type is left out, as it is that of the last definition alone.
  induction room generalizing chain name with
  | zero =>
      rcases chaseSimpleFrom_cases m owner start 0 chain name with ⟨hd, hchase⟩ | ⟨d, hd, -, hchase, -⟩ |
        ⟨d, next, hd, hbase, hnext⟩
      · rw [hchase, simpleTypesWithin_of_undeclared hd, List.foldl_nil]
      · rw [hchase, simpleTypesWithin_zero hd, List.foldl_cons, List.foldl_nil]
      · rw [chaseSimpleFrom_zero_of_next hd hbase hnext, simpleTypesWithin_zero hd, List.foldl_cons, List.foldl_nil]
  | succ room ih =>
      rcases chaseSimpleFrom_cases m owner start (room + 1) chain name with ⟨hd, hchase⟩ | ⟨d, hd, hend, hchase, -⟩ |
        ⟨d, next, hd, hbase, hnext⟩
      · rw [hchase, simpleTypesWithin_of_undeclared hd, List.foldl_nil]
      · rw [hchase, simpleTypesWithin_of_end hd hend, List.foldl_cons, List.foldl_nil]
      · rw [chaseSimpleFrom_succ_of_next hd hbase hnext, simpleTypesWithin_of_next hd hbase, List.foldl_cons]
        exact ih (chain.extend d) next

/-- A chase is cut if and only if there is a definition one step out of reach. -/
theorem findings_chaseSimpleFrom_iff :
    (chaseSimpleFrom m owner start room chain name).2 = [longSimpleChain owner start] ↔
      (simpleTypeAt? m name (room + 1)).isSome = true := by
  induction room generalizing chain name with
  | zero =>
      rcases chaseSimpleFrom_cases m owner start 0 chain name with ⟨hd, hchase⟩ | ⟨d, hd, hend, -, hchase⟩ |
        ⟨d, next, hd, hbase, hnext⟩
      · simp [hchase, longSimpleChain_ne_undeclaredSimpleType.symm,
          simpleTypeAt?_of_undeclared hd]
      · simp [hchase, simpleTypeAt?_succ_of_end hd hend 0]
      · rw [chaseSimpleFrom_zero_of_next hd hbase hnext, simpleTypeAt?_succ hd hbase]
        exact iff_of_true rfl hnext
  | succ room ih =>
      rcases chaseSimpleFrom_cases m owner start (room + 1) chain name with ⟨hd, hchase⟩ | ⟨d, hd, hend, -, hchase⟩ |
        ⟨d, next, hd, hbase, hnext⟩
      · simp [hchase, longSimpleChain_ne_undeclaredSimpleType.symm,
          simpleTypeAt?_of_undeclared hd]
      · simp [hchase, simpleTypeAt?_succ_of_end hd hend]
      · rw [chaseSimpleFrom_succ_of_next hd hbase hnext, simpleTypeAt?_succ hd hbase]
        exact ih

end chase

/-- A definition with a built-in base is the last one. -/
theorem SimpleTypeDef.next?_eq_none_of_builtinBase? {m : Model} {d : SimpleTypeDef} {p : Primitive}
    (h : d.builtinBase? m = some p) : d.next? m = none := by
  rw [SimpleTypeDef.builtinBase?_eq_some_iff] at h
  rw [SimpleTypeDef.next?, h]

/-- A chain that goes on out of reach gives no built-in type. -/
theorem primitive_chaseSimple_of_long {m : Model} {start : String} (owner : String)
    (hlong : (simpleTypeAt? m start (maxAliasHops + 1)).isSome = true) : (chaseSimple m owner start).1.primitive = none := by
  rw [Option.eq_none_iff_forall_ne_some]
  intro p hp
  obtain ⟨k, hk, d, hd, hbase⟩ := (primitive_chaseSimpleFrom_iff rfl).mp hp
  have hlast : simpleTypeAt? m start (k + 1) = none := by
    show (simpleTypeAt? m start k).bind (·.next? m) = none
    rw [hd, Option.bind_some, SimpleTypeDef.next?_eq_none_of_builtinBase? hbase]
  rw [simpleTypeAt?, Trail.at?_eq_none_of_le (Nat.succ_le_succ hk) hlast] at hlong
  cases hlong

/-- **How a simple type is followed.** A chase gives a built-in type exactly if this type is the base of a definition that
is come to in at most `maxAliasHops` steps, and counts as string otherwise. Flags and facets come from all definitions that
are come to in so many steps, and from no others. The chase is cut, with one finding, exactly if there is a definition one
step further, which is so in every chain that comes to some definition twice. -/
theorem chaseSimple_follows (m : Model) (owner start : String) :
    let reach := simpleTypesWithin m start maxAliasHops
    let result := chaseSimple m owner start
    (∀ p, result.1.primitive = some p ↔ ∃ k ≤ maxAliasHops, ∃ d, simpleTypeAt? m start k = some d ∧
        d.base.map m.builtins.classify = some (.primitive p)) ∧
      (result.1.primitive = none → result.1.primitiveOrString = .string) ∧
      result.1.isList = reach.any (·.isList) ∧
      result.1.collapseWhiteSpace = reach.any (·.collapseWhiteSpace) ∧
      result.1.facets = (reach.find? (·.facets.isRestricted)).map (·.facets) ∧
      (result.2 = [longSimpleChain owner start] ↔ (simpleTypeAt? m start (maxAliasHops + 1)).isSome = true) ∧
      ∀ i j, i < j → (simpleTypeAt? m start i).isSome = true → simpleTypeAt? m start j = simpleTypeAt? m start i →
        result.1.primitiveOrString = .string ∧ result.2 = [longSimpleChain owner start] := by
  intro reach result
  have hstring : result.1.primitive = none → result.1.primitiveOrString = .string := by
    intro hnone
    rw [SimpleChain.primitiveOrString, hnone, Option.getD_none]
  have hchain := chain_chaseSimpleFrom m owner start maxAliasHops {} start
  refine ⟨fun p => ?_, hstring, ?_, ?_, ?_, findings_chaseSimpleFrom_iff, ?_⟩
  · simp only [← SimpleTypeDef.builtinBase?_eq_some_iff]
    exact primitive_chaseSimpleFrom_iff rfl
  · have hlist := congrArg SimpleChain.isList hchain
    rwa [SimpleChain.isList_foldl_extend, Bool.false_or] at hlist
  · have hcollapse := congrArg SimpleChain.collapseWhiteSpace hchain
    rwa [SimpleChain.collapseWhiteSpace_foldl_extend, Bool.false_or] at hcollapse
  · have hfacets := congrArg SimpleChain.facets hchain
    rwa [SimpleChain.facets_foldl_extend, Option.none_or] at hfacets
  · intro i j hlt hsome hagain
    have hlong := Trail.isSome_of_return hlt hsome hagain (maxAliasHops + 1)
    exact ⟨hstring (primitive_chaseSimple_of_long owner hlong), findings_chaseSimpleFrom_iff.mpr hlong⟩

/-- A schema where two simple types are the base of each other. -/
def mutualAliases : Model :=
  { Model.empty with symbols :=
      { simpleTypes := ⟨[("Size", { name := "Size", base := some "Width" }), ("Width", { name := "Width", base := some "Size" })]⟩ } }

theorem chaseSimple_mutualAliases :
    simpleTypeAt? mutualAliases "Size" 2 = simpleTypeAt? mutualAliases "Size" 0 ∧
      (chaseSimple mutualAliases "Order" "Size").1.primitiveOrString = .string ∧
      (chaseSimple mutualAliases "Order" "Size").2 = [longSimpleChain "Order" "Size"] :=
  have hagain : simpleTypeAt? mutualAliases "Size" 2 = simpleTypeAt? mutualAliases "Size" 0 := by decide
  ⟨hagain, (chaseSimple_follows mutualAliases "Order" "Size").2.2.2.2.2.2 0 2 (by decide) (by decide) hagain⟩

end SchemaBinding
