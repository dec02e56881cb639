import SchemaBinding.Proofs.Builder.Built
import SchemaBinding.Proofs.Mixed.Round
import SchemaBinding.Resolve

/-!
# `SchemaBinding.Proofs.Resolve.Kept`: what the passes leave as it is

Each pass fills in some parts of nodes and keeps all others. `Model.Keeps` says that two models are the same as far as a
view of nodes and a view of the registries show, and there is one lemma per pass, for every view that does not look at
what the pass fills in.

A model that is resolved has the nodes that were read, and what was written of them (`Node.written`,
`keeps_written`). The stages between the passes have names here (`Stage.flat` and those after it), so that what
one pass establishes can be carried to the end of the resolution.

`Model.IsResolved` is what the proofs about resolved models start from.
-/

set_option autoImplicit false

namespace SchemaBinding

/-- The models are the same but for what the views of nodes and of registries leave out. -/
structure Model.Keeps {α β : Type} (view : Node → α) (known : Symbols → β) (m m' : Model) : Prop where
  size : m'.nodes.size = m.nodes.size
  node : ∀ id, view (m'.node id) = view (m.node id)
  symbols : known m'.symbols = known m.symbols
  builtins : m'.builtins = m.builtins

namespace Model.Keeps

variable {α β : Type} {view : Node → α} {known : Symbols → β} {m m' m'' : Model}

theorem refl (m : Model) : Keeps view known m m := ⟨rfl, fun _ => rfl, rfl, rfl⟩

theorem trans (h : Keeps view known m m') (h' : Keeps view known m' m'') : Keeps view known m m'' where
  size := h'.size.trans h.size
  node id := (h'.node id).trans (h.node id)
  symbols := h'.symbols.trans h.symbols
  builtins := h'.builtins.trans h.builtins

theorem symm (h : Keeps view known m m') : Keeps view known m' m where
  size := h.size.symm
  node id := (h.node id).symm
  symbols := h.symbols.symm
  builtins := h.builtins.symm

/-- What is kept of a larger view is kept of a part of it. -/
theorem of_view {γ : Type} (h : Keeps view known m m') (f : α → γ) : Keeps (fun n => f (view n)) known m m' where
  size := h.size
  node id := congrArg f (h.node id)
  symbols := h.symbols
  builtins := h.builtins

theorem of_known {γ : Type} (h : Keeps view known m m') (f : β → γ) : Keeps view (fun s => f (known s)) m m' where
  size := h.size
  node := h.node
  symbols := congrArg f h.symbols
  builtins := h.builtins

theorem modifyNode (m : Model) (id : NodeId) {f : Node → Node} (hf : ∀ n, view (f n) = view n) :
    Keeps view known m (m.modifyNode id f) where
  size := size_modifyNode m id f
  node := congr_modifyNode hf m id
  symbols := rfl
  builtins := rfl

/-- It is enough that the change keeps what shows of the node as it is. -/
theorem modifyNode_of_eq (m : Model) (id : NodeId) {f : Node → Node} (hf : view (f (m.node id)) = view (m.node id)) :
    Keeps view known m (m.modifyNode id f) where
  size := size_modifyNode m id f
  node x := by
    rw [node_modifyNode]
    split
    · rename_i hx
      rw [hx.1]
      exact hf
    · rfl
  symbols := rfl
  builtins := rfl

theorem modifySymbols (m : Model) {f : Symbols → Symbols} (hf : ∀ s, known (f s) = known s) :
    Keeps view known m (m.modifySymbols f) where
  size := rfl
  node _ := rfl
  symbols := hf m.symbols
  builtins := rfl

/-- What one step keeps, all of them keep. -/
theorem foldl {γ : Type} {step : Model → γ → Model} (hstep : ∀ m entry, Keeps view known m (step m entry)) (m : Model)
    (entries : List γ) : Keeps view known m (entries.foldl step m) := by
  induction entries generalizing m with
  | nil => exact .refl m
  | cons entry rest ih => exact (hstep m entry).trans (ih _)

theorem holds_iff (h : Keeps view known m m') (id : NodeId) : m'.Holds id ↔ m.Holds id := by
  rw [Model.Holds, Model.Holds, h.size]

theorem element?_eq (h : Keeps view Symbols.elements m m') : m'.element? = m.element? := by
  funext name
  rw [element?, element?, Symbols.element?, Symbols.element?, h.symbols]

theorem simpleType?_eq (h : Keeps view Symbols.simpleTypes m m') : m'.simpleType? = m.simpleType? := by
  funext name
  unfold simpleType? Symbols.simpleType?
  rw [show m'.symbols.simpleTypes = m.symbols.simpleTypes from h.symbols]

theorem declarations_eq (h : Keeps (fun n => (n.kind, n.children)) known m m') : m'.declarations = m.declarations :=
  declarations_congr h.size (fun id => congrArg Prod.snd (h.node id)) fun id => congrArg Prod.fst (h.node id)

end Model.Keeps

/-- The model after one step for each entry. -/
theorem model_forEach {α : Type} (m : Model) (entries : List α) (step : Model → α → Resolved) :
    (Resolved.forEach m entries step).model = entries.foldl (fun m entry => (step m entry).model) m := by
  have hfrom : ∀ r : Resolved, (entries.foldl (fun r entry => r.andThen (step · entry)) r).model =
      entries.foldl (fun m entry => (step m entry).model) r.model := by
    induction entries with
    | nil => exact fun _ => rfl
    | cons entry rest ih => exact fun r => ih (r.andThen (step · entry))
  exact hfrom ⟨m, []⟩

/-- In related lists, every entry has its counterpart. -/
theorem exists_mem_of_forall₂ {α β : Type} {R : α → β → Prop} {xs : List α} {ys : List β} (h : List.Forall₂ R xs ys) :
    (∀ x ∈ xs, ∃ y ∈ ys, R x y) ∧ ∀ y ∈ ys, ∃ x ∈ xs, R x y := by
  induction h with
  | nil => simp
  | cons hfirst _ ih =>
      obtain ⟨hleft, hright⟩ := ih
      simp only [List.forall_mem_cons, List.exists_mem_cons_iff]
      exact ⟨⟨Or.inl hfirst, fun x hx => Or.inr (hleft x hx)⟩, Or.inl hfirst, fun y hy => Or.inr (hright y hy)⟩

/-- What one step does for its own entry and no other step undoes, all of them do for all entries. -/
theorem forall_mem_foldl {α β : Type} {f : β → α → β} {P : β → α → Prop} (hself : ∀ b a, P (f b a) a)
    (hkeep : ∀ b a x, P b x → P (f b a) x) (b : β) (entries : List α) :
    ∀ x ∈ entries, P (entries.foldl f b) x := by
  have hlater : ∀ (entries : List α) (b : β) (x : α), P b x → P (entries.foldl f b) x := by
    intro entries
    induction entries with
    | nil => exact fun _ _ h => h
    | cons entry rest ih => exact fun b x h => ih (f b entry) x (hkeep b entry x h)
  induction entries generalizing b with
  | nil => exact fun x hx => absurd hx List.not_mem_nil
  | cons entry rest ih =>
      intro x hx
      rcases List.mem_cons.mp hx with rfl | hx
      · exact hlater rest (f b x) x (hself b x)
      · exact ih (f b entry) x hx

theorem keeps_forEach {α β γ : Type} {view : Node → α} {known : Symbols → β} {step : Model → γ → Resolved}
    (hstep : ∀ m entry, Model.Keeps view known m (step m entry).model) (m : Model) (entries : List γ) :
    Model.Keeps view known m (Resolved.forEach m entries step).model := by
  rw [model_forEach]
  exact .foldl hstep m entries

/-! ### The passes -/

section passes

variable {α β : Type} {view : Node → α} {known : Symbols → β}

theorem keeps_spliceReachable (hview : ∀ n ids, view { n with children := ids } = view n) (m : Model)
    (memo : GroupMemo) (seen work : List NodeId) :
    Model.Keeps view known m (spliceReachable m memo seen work).1 := by
  fun_induction spliceReachable m memo seen work with
  | case1 m => exact .refl m
  | case2 m memo seen id rest h spliced ih =>
      refine Model.Keeps.trans ?_ ih
      change Model.Keeps view known m (spliceChildren m memo id).1
      unfold spliceChildren
      split
      · exact .modifyNode m id fun n => hview n _
      · exact .refl m
  | case3 m memo seen id rest h ih => exact ih

theorem keeps_flattenGroups (hview : ∀ n ids, view { n with children := ids } = view n) (m : Model) :
    Model.Keeps view known m (flattenGroups m).model :=
  keeps_spliceReachable hview m _ _ _

theorem keeps_expandAttributeGroups (hview : ∀ n a, view { n with attributes := a } = view n) (m : Model) :
    Model.Keeps view known m (expandAttributeGroups m).model :=
  keeps_forEach (fun m id => .modifyNode m id fun n => hview n _) m _

theorem keeps_registerNode (names : NameTable) (hview : ∀ n, view (cleanNames names n) = view n)
    (hknown : ∀ s name id, known (s.registerElement name id) = known s) (m : Model) (id : NodeId) :
    Model.Keeps view known m (registerNode names m id).model := by
  unfold registerNode
  dsimp only
  split
  · exact (Model.Keeps.modifyNode m id hview).trans (.modifySymbols _ fun s => hknown s _ _)
  · exact .modifyNode m id hview

theorem keeps_registerSymbols (names : NameTable) (hview : ∀ n, view (cleanNames names n) = view n)
    (hknown : ∀ s name id, known (s.registerElement name id) = known s) (m : Model) :
    Model.Keeps view known m (registerSymbols names m).model :=
  keeps_forEach (keeps_registerNode names hview hknown) m _

theorem keeps_resolveAttributes (hattributes : ∀ n a, view { n with attributes := a } = view n) (m : Model) (id : NodeId) :
    Model.Keeps view known m (resolveAttributes m id).model :=
  .modifyNode m id fun n => hattributes n _

theorem keeps_resolveDeclaration (hview : ∀ n r collapse, view (applyResolution r collapse n) = view n)
    (hattributes : ∀ n a, view { n with attributes := a } = view n) (m : Model) (id : NodeId) :
    Model.Keeps view known m (resolveDeclaration m id).model :=
  (Model.Keeps.modifyNode m id fun n => hview n _ _).trans (keeps_resolveAttributes hattributes _ id)

theorem keeps_resolveTypes (hview : ∀ n r collapse, view (applyResolution r collapse n) = view n)
    (hattributes : ∀ n a, view { n with attributes := a } = view n) (m : Model) :
    Model.Keeps view known m (resolveTypes m).model :=
  keeps_forEach (keeps_resolveDeclaration hview hattributes) m _

theorem keeps_look {s s' : MixedState} {chain : List NodeId}
    (hview : ∀ n mixed conflict, view (n.withFlags mixed conflict) = view n) (h : s.Look chain s') :
    Model.Keeps view known s.model s'.model := by
  have hmark : ∀ n, view n.markMixed = view n := fun n => hview n true n.mixedExtensionError
  cases h with
  | kept => exact .refl _
  | flagged =>
      cases chain with
      | nil => exact .refl _
      | cons id rest => exact .modifyNode _ id fun n => hview n n.mixed true
  | equalized => exact .foldl (fun m id => .modifyNode m id hmark) s.model chain

theorem keeps_round {look : MixedState → List NodeId → MixedState} (hlook : ∀ s chain, MixedState.Look s chain (look s chain))
    (hview : ∀ n mixed conflict, view (n.withFlags mixed conflict) = view n) (s : MixedState) :
    Model.Keeps view known s.model (s.round look).model := by
  have hfrom : ∀ (chains : List (List NodeId)) (s : MixedState),
      Model.Keeps view known s.model (chains.foldl look s).model := by
    intro chains
    induction chains with
    | nil => exact fun s => .refl _
    | cons chain rest ih => exact fun s => (keeps_look hview (hlook s chain)).trans (ih _)
  exact hfrom s.openChains { s with openChains := [] }

theorem keeps_settle (hview : ∀ n mixed conflict, view (n.withFlags mixed conflict) = view n) (s : MixedState) :
    Model.Keeps view known s.model s.settle.model := by
  fun_induction MixedState.settle s with
  | case1 s next hless ih => exact (keeps_round MixedState.look_equalize hview s).trans ih
  | case2 s next hless => exact keeps_round MixedState.look_equalize hview s

theorem keeps_checkMixedChains (hview : ∀ n mixed conflict, view (n.withFlags mixed conflict) = view n) (m : Model) :
    Model.Keeps view known m (checkMixedChains m).model :=
  (keeps_round MixedState.look_detect hview ⟨m, (mixedChains m).1, (mixedChains m).2⟩).trans (keeps_settle hview _)

theorem keeps_renameAttribute (hview : ∀ n a, view { n with attributes := a } = view n) (children : List String)
    (m : Model) (id : NodeId) (key : String) : Model.Keeps view known m (renameAttribute children m id key).model := by
  unfold renameAttribute
  dsimp only
  split
  · exact .refl m
  · split
    · exact .refl m
    · exact .modifyNode m id fun n => hview n _

theorem keeps_disambiguateNode (hview : ∀ n a, view { n with attributes := a } = view n) (m : Model) (id : NodeId) :
    Model.Keeps view known m (disambiguateNode m id).model :=
  keeps_forEach (fun m key => keeps_renameAttribute hview _ m id key) m _

theorem keeps_disambiguateNames (hview : ∀ n a, view { n with attributes := a } = view n) (m : Model) :
    Model.Keeps view known m (disambiguateNames m).model :=
  keeps_forEach (keeps_disambiguateNode hview) m _

theorem keeps_markBase (hview : ∀ n, view { n with isExtended := true } = view n) (m : Model) (id : NodeId) :
    Model.Keeps view known m (markBase m id).model := by
  unfold markBase
  split
  · split
    · exact .refl m
    · exact .modifyNode m _ hview
  · exact .refl m

theorem keeps_markExtended (hview : ∀ n, view { n with isExtended := true } = view n) (m : Model) :
    Model.Keeps view known m (markExtended m).model :=
  keeps_forEach (keeps_markBase hview) m _

end passes

/-! ### The stages of a resolution -/

/-- What was written of a node, and no pass changes. -/
def Node.written (n : Node) : Node :=
  { n with
    cleanName := ""
    children := []
    attributes := ∅
    mixed := false
    facets := {}
    simpleTypeName := none
    collapseWhiteSpace := false
    resolvedType := none
    isComplex := false
    isListType := false
    mixedExtensionError := false
    isExtended := false }

namespace Stage

variable (names : NameTable) (m : Model)

/-- The model when references to groups are replaced. -/
def flat : Model := (flattenGroups m).model

/-- The model when attribute groups are expanded too, and names are still to be cleaned. -/
def collected : Model := (expandAttributeGroups (flat m)).model

/-- The model when its declarations are registered. -/
def registered : Model := (registerSymbols names (collected m)).model

/-- The model when its nodes have types. -/
def typed : Model := (resolveTypes (registered names m)).model

/-- The model when mixed content is settled, and attributes are still to get their suffixes. -/
def checked : Model := (checkMixedChains (typed names m)).model

/-- The model when only the extended declarations are still to be marked. -/
def unmarked : Model := (disambiguateNames (checkMixedChains (typed names m)).model).model

end Stage

theorem model_resolve (names : NameTable) (m : Model) :
    (resolve names m).model = (markExtended (Stage.unmarked names m)).model := rfl

section stages

variable {α β : Type} {view : Node → α} {known : Symbols → β} (names : NameTable) (m : Model)

theorem keeps_collected (hchildren : ∀ n ids, view { n with children := ids } = view n)
    (hattributes : ∀ n a, view { n with attributes := a } = view n) : Model.Keeps view known m (Stage.collected m) :=
  (keeps_flattenGroups hchildren m).trans (keeps_expandAttributeGroups hattributes _)

/-- What is read of a node is still there when its name is registered. -/
theorem keeps_untyped (hchildren : ∀ n ids, view { n with children := ids } = view n)
    (hattributes : ∀ n a, view { n with attributes := a } = view n) (hclean : ∀ n, view (cleanNames names n) = view n)
    (hknown : ∀ s name id, known (s.registerElement name id) = known s) :
    Model.Keeps view known m (Stage.registered names m) :=
  (keeps_collected m hchildren hattributes).trans (keeps_registerSymbols names hclean hknown _)

theorem keeps_unmarked (hmixed : ∀ n mixed conflict, view (n.withFlags mixed conflict) = view n)
    (hattributes : ∀ n a, view { n with attributes := a } = view n) :
    Model.Keeps view known (Stage.typed names m) (Stage.unmarked names m) :=
  (keeps_checkMixedChains hmixed _).trans (keeps_disambiguateNames hattributes _)

/-- What is known when nodes have types is not changed by the passes that follow. -/
theorem keeps_typed (hattributes : ∀ n a, view { n with attributes := a } = view n)
    (hmixed : ∀ n mixed conflict, view (n.withFlags mixed conflict) = view n)
    (hmark : ∀ n, view { n with isExtended := true } = view n) :
    Model.Keeps view known (Stage.typed names m) (resolve names m).model :=
  (keeps_unmarked names m hmixed hattributes).trans (keeps_markExtended hmark _)

theorem keeps_registered (hattributes : ∀ n a, view { n with attributes := a } = view n)
    (htype : ∀ n r collapse, view (applyResolution r collapse n) = view n)
    (hmixed : ∀ n mixed conflict, view (n.withFlags mixed conflict) = view n)
    (hmark : ∀ n, view { n with isExtended := true } = view n) :
    Model.Keeps view known (Stage.registered names m) (resolve names m).model :=
  (keeps_resolveTypes htype hattributes _).trans (keeps_typed names m hattributes hmixed hmark)

/-- The tree is the same ever since references to groups are replaced. -/
theorem keeps_tree : Model.Keeps (fun n => (n.kind, n.children)) Symbols.simpleTypes (Stage.flat m) (resolve names m).model :=
  ((keeps_expandAttributeGroups (fun _ _ => rfl) _).trans
    (keeps_registerSymbols names (fun _ => rfl) (fun _ _ _ => rfl) _)).trans
    (keeps_registered names m (fun _ _ => rfl) (fun _ _ _ => rfl) (fun _ _ _ => rfl) fun _ => rfl)

/-- Names are registered for the declarations of the resolved model. -/
theorem declarations_resolve : (resolve names m).model.declarations = (Stage.collected m).declarations := by
  have hattributes : Model.Keeps (fun n => (n.kind, n.children)) (fun _ => ()) (Stage.flat m) (Stage.collected m) :=
    keeps_expandAttributeGroups (fun _ _ => rfl) _
  rw [(keeps_tree names m).declarations_eq, hattributes.declarations_eq]

/-- Resolution keeps what was written. -/
theorem keeps_written : Model.Keeps Node.written Symbols.simpleTypes m (resolve names m).model :=
  (keeps_untyped names m (fun _ _ => rfl) (fun _ _ => rfl) (fun _ => rfl) fun _ _ _ => rfl).trans
    (keeps_registered names m (fun _ _ => rfl) (fun _ _ _ => rfl) (fun _ _ _ => rfl) fun _ => rfl)

theorem declarations_registered : (Stage.registered names m).declarations = (resolve names m).model.declarations := by
  have hlater : Model.Keeps (fun n => (n.kind, n.children)) (fun _ => ()) (Stage.registered names m)
      (resolve names m).model :=
    keeps_registered names m (fun _ _ => rfl) (fun _ _ _ => rfl) (fun _ _ _ => rfl) fun _ => rfl
  exact hlater.declarations_eq.symm

/-- An element or a complex type is a declaration if the root reaches it in the end. -/
theorem mem_declarations_resolve {names : NameTable} {m : Model} {id : NodeId} (hheld : m.Holds id)
    (hkind : (m.node id).kind = .element ∨ (m.node id).kind = .complexType)
    (hreaches : (resolve names m).model.Reaches Model.root id) : id ∈ (resolve names m).model.declarations := by
  have hsame := congrArg Node.kind ((keeps_written names m).node id)
  have hkind' : ((resolve names m).model.node id).kind = (m.node id).kind := hsame
  refine Model.mem_declarations_iff.mpr ⟨hreaches, ((keeps_written names m).holds_iff id).mpr hheld, ?_⟩
  rcases hkind with hkind | hkind <;> rw [hkind', hkind] <;> decide

end stages

/-! ### Resolved models -/

namespace Model

/-- A model that was read and then resolved with these names. -/
def IsResolved (names : NameTable) (r : Model) : Prop :=
  ∃ m : Model, m.IsBuilt ∧ (resolve names m).model = r

theorem IsBuilt.isResolved {m : Model} (h : m.IsBuilt) (names : NameTable) :
    (resolve names m).model.IsResolved names := ⟨m, h, rfl⟩

/-- A schema without groups and mixed content is resolved by going through its declarations `ids` two times, for names
and for types, and by marking what is extended. -/
theorem resolve_of_passes {names : NameTable} {m registered typed r : Model} {ids : List NodeId}
    (hcollected : Stage.collected m = m) (hids : m.declarations = ids)
    (hregistered : (Resolved.forEach m ids (registerNode names)).model = registered)
    (htyped : (Resolved.forEach registered ids resolveDeclaration).model = typed)
    (hunmarked : (disambiguateNames (checkMixedChains typed).model).model = typed)
    (hmarked : (markExtended typed).model = r) : (resolve names m).model = r := by
  have hsame : (registerSymbols names m).model = registered := by rw [registerSymbols, hids, hregistered]
  have hkeep : Keeps (fun n => (n.kind, n.children)) (fun _ => ()) m (registerSymbols names m).model :=
    keeps_registerSymbols names (fun _ => rfl) (fun _ _ _ => rfl) m
  have hlater : registered.declarations = ids := by rw [← hids, ← hkeep.declarations_eq, hsame]
  have htypes : (resolveTypes registered).model = typed := by rw [resolveTypes, hlater, htyped]
  rw [model_resolve, Stage.unmarked, Stage.typed, Stage.registered, hcollected, hsame, htypes, hunmarked, hmarked]

theorem IsBuilt.isResolved_of_passes {names : NameTable} {m registered typed r : Model} {ids : List NodeId} (h : m.IsBuilt)
    (hcollected : Stage.collected m = m) (hids : m.declarations = ids)
    (hregistered : (Resolved.forEach m ids (registerNode names)).model = registered)
    (htyped : (Resolved.forEach registered ids resolveDeclaration).model = typed)
    (hunmarked : (disambiguateNames (checkMixedChains typed).model).model = typed)
    (hmarked : (markExtended typed).model = r) : r.IsResolved names :=
  ⟨m, h, resolve_of_passes hcollected hids hregistered htyped hunmarked hmarked⟩

theorem isResolved_of_readSchema {prefixOverride : Option String} {names : NameTable} {source : String} {r : Resolved}
    (h : readSchema prefixOverride names source = .ok r) : r.model.IsResolved names := by
  obtain ⟨m, hread, rfl⟩ := exists_of_map_eq_ok h
  exact (isBuilt_of_ofSource hread).isResolved names

end Model

end SchemaBinding
