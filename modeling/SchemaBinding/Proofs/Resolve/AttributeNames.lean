import SchemaBinding.Proofs.Resolve.Extended
import SchemaBinding.Proofs.Resolve.Registered

/-!
# `SchemaBinding.Proofs.Resolve.AttributeNames`: the clean names of attributes

An attribute of a declaration gets the clean name of its own name, and loses it only to a suffix, when a child of the
declaration or of what it extends has that name (`childNames`). So where no attribute is called like a child, each of them
has the clean name of its name (`Model.IsResolved.cleanName_of_attribute`).
-/

set_option autoImplicit false

namespace SchemaBinding

/-- The names of the attributes of a node, each with its clean name. -/
def Node.attributeNames (n : Node) : List (String × String) := n.attributes.values.map fun d => (d.name, d.cleanName)

/-- No attribute is called like a child, own or inherited, when its name is cleaned. -/
def AttributesApart (names : NameTable) (m : Model) (id : NodeId) : Prop :=
  ∀ d ∈ (m.node id).attributes.values, names.clean d.name ∉ childNames m (m.extensionChain id).nodes

section passes

variable {β : Type} {known : Symbols → β}

/-! ### What keeps the names -/

theorem resolveAttribute_names (m : Model) (owner key : String) (d : AttributeDef) :
    (resolveAttribute m owner key d).1.name = d.name ∧ (resolveAttribute m owner key d).1.cleanName = d.cleanName := by
  unfold resolveAttribute
  split
  · exact ⟨rfl, rfl⟩
  · exact ⟨rfl, rfl⟩
  · split <;> exact ⟨rfl, rfl⟩

theorem keeps_attributeNames_resolveDeclaration (m : Model) (id : NodeId) :
    Model.Keeps Node.attributeNames known m (resolveDeclaration m id).model := by
  have hattributes : ∀ m : Model, Model.Keeps Node.attributeNames known m (resolveAttributes m id).model := by
    intro m
    refine .modifyNode_of_eq m id ?_
    simp [Node.attributeNames, Table.values, resolveAttribute_names]
  have hresolution : ∀ r collapse n, (applyResolution r collapse n).attributeNames = n.attributeNames :=
    fun _ _ _ => rfl
  exact (Model.Keeps.modifyNode m id fun n => hresolution _ _ n).trans (hattributes _)

section suffixes
variable {γ : Type} {f : AttributeDef → γ} (hf : ∀ d cleanName, f { d with cleanName := cleanName } = f d)
include hf

/-- Giving an attribute a suffix changes clean names only. -/
theorem keeps_values_renameAttribute (children : List String) (m : Model) (id : NodeId) (key : String) :
    Model.Keeps (fun n => n.attributes.values.map f) known m (renameAttribute children m id key).model := by
  unfold renameAttribute
  dsimp only
  split
  · exact .refl m
  · split
    · exact .refl m
    · rename_i renamed hrenamed
      refine .modifyNode_of_eq m id ?_
      refine (Table.map_values_modify ?_ renamed _).trans (by rw [Table.values_of_rename?_eq hrenamed])
      exact fun d => hf d _

theorem keeps_values_disambiguateNode (m : Model) (id : NodeId) :
    Model.Keeps (fun n => n.attributes.values.map f) known m (disambiguateNode m id).model :=
  keeps_forEach (fun m key => keeps_values_renameAttribute hf _ m id key) m _

/-- The passes after the one for types change clean names of attributes only. -/
theorem keeps_values_typed (names : NameTable) (m : Model) :
    Model.Keeps (fun n => n.attributes.values.map f) known (Stage.typed names m) (resolve names m).model :=
  ((keeps_checkMixedChains (fun _ _ _ => rfl) _).trans
    (keeps_forEach (keeps_values_disambiguateNode hf) _ _)).trans (keeps_markExtended (fun _ => rfl) _)

end suffixes

/-- Which attributes a declaration has is settled when attribute groups are expanded. -/
theorem keeps_names (names : NameTable) (m : Model) :
    Model.Keeps (fun n => n.attributes.values.map (·.name)) known (Stage.registered names m)
      (resolve names m).model := by
  have htypes : Model.Keeps (fun n => n.attributes.values.map (·.name)) known (Stage.registered names m)
      (Stage.typed names m) := by
    have hnames : Model.Keeps (fun n => n.attributeNames.map (·.1)) known (Stage.registered names m)
        (Stage.typed names m) :=
      (keeps_forEach keeps_attributeNames_resolveDeclaration _ _).of_view (List.map (·.1))
    simpa [Node.attributeNames, Function.comp_def] using hnames
  exact htypes.trans (keeps_values_typed (fun _ _ => rfl) names m)

/-- Names are changed in one node at a time. -/
theorem node_disambiguateNode_of_ne (m : Model) {id x : NodeId} (hne : x ≠ id) :
    (disambiguateNode m id).model.node x = m.node x := by
  have hstep : ∀ (children : List String) (m : Model) (key : String),
      (renameAttribute children m id key).model.node x = m.node x := by
    intro children m key
    unfold renameAttribute
    dsimp only
    split
    · rfl
    · split
      · rfl
      · rw [Model.node_modifyNode, if_neg fun h => hne h.1]
  have hsteps : ∀ (children keys : List String) (m : Model),
      (Resolved.forEach m keys fun m key => renameAttribute children m id key).model.node x = m.node x := by
    intro children keys m
    rw [model_forEach]
    induction keys generalizing m with
    | nil => rfl
    | cons key rest ih => rw [List.foldl_cons, ih, hstep]
  exact hsteps _ _ m

end passes

/-! ### Clean names -/

theorem extendChain_congr {m m' : Model} (h : ∀ id, m'.registeredBase? id = m.registeredBase? id) (room : Nat)
    (chain : List NodeId) (id : NodeId) : m'.extendChain room chain id = m.extendChain room chain id := by
  induction room generalizing chain id with
  | zero =>
      unfold Model.extendChain
      rw [h]
  | succ room ih =>
      unfold Model.extendChain
      rw [h]
      split
      · rfl
      · split
        · rfl
        · exact ih _ _

/-- Which names children have does not depend on what becomes of attributes. -/
theorem childNames_congr {m m' : Model}
    (h : Model.Keeps (fun n => (n.cleanName, n.children, n.base)) Symbols.elements m m') (id : NodeId) :
    childNames m' (m'.extensionChain id).nodes = childNames m (m.extensionChain id).nodes := by
  have hbase : ∀ id, m'.registeredBase? id = m.registeredBase? id :=
    Model.registeredBase?_congr (h.of_view fun view => view.2.2)
  have hchildren : ∀ id, m'.children id = m.children id := (h.of_view fun view => view.2.1).node
  have hclean : ∀ id, (m'.node id).cleanName = (m.node id).cleanName := (h.of_view fun view => view.1).node
  rw [Model.extensionChain, Model.extensionChain, extendChain_congr hbase]
  unfold childNames
  simp only [hchildren, hclean]

/-- Where no attribute is called like a child, all attributes stay as they are. -/
theorem attributes_disambiguateNames {m : Model} {id : NodeId}
    (hapart : ∀ d ∈ (m.node id).attributes.values, d.cleanName ∉ childNames m (m.extensionChain id).nodes) :
    ((disambiguateNames m).model.node id).attributes = (m.node id).attributes := by
  have hkeep : ∀ current id, Model.Keeps (fun n => (n.cleanName, n.children, n.base)) Symbols.elements current
      (disambiguateNode current id).model := keeps_disambiguateNode fun _ _ => rfl
  unfold disambiguateNames
  rw [model_forEach]
  have hinvariant := List.foldlRecOn m.declarations (fun m id => (disambiguateNode m id).model)
    (motive := fun current => Model.Keeps (fun n => (n.cleanName, n.children, n.base)) Symbols.elements m current ∧
      (current.node id).attributes = (m.node id).attributes)
    ⟨.refl m, rfl⟩ ?_
  · exact hinvariant.2
  · rintro current ⟨hsame, hattributes⟩ other -
    refine ⟨hsame.trans (hkeep current other), ?_⟩
    by_cases hother : id = other
    · -- The children are still called as before, so there is no attribute to rename.
      subst hother
      have hnone : (current.node id).attributes.entries.filter (fun entry =>
          (childNames current (current.extensionChain id).nodes).contains entry.2.cleanName) = [] := by
        refine List.filter_eq_nil_iff.mpr fun entry hentry => ?_
        rw [childNames_congr hsame, hattributes] at *
        have hvalue : entry.2 ∈ (m.node id).attributes.values := List.mem_map_of_mem hentry
        simpa using hapart entry.2 hvalue
      unfold disambiguateNode
      dsimp only
      rw [hnone]
      exact hattributes
    · rw [node_disambiguateNode_of_ne current hother, hattributes]

/-- Before attributes get suffixes, each has the clean name of its name. -/
theorem cleanName_checked (names : NameTable) {m : Model} {id : NodeId} (hid : id ∈ (Stage.collected m).declarations) :
    ∀ d ∈ ((Stage.checked names m).node id).attributes.values, d.cleanName = names.clean d.name := by
  have hnames : Model.Keeps Node.attributeNames (fun _ => ()) (Stage.registered names m) (Stage.checked names m) :=
    (keeps_forEach keeps_attributeNames_resolveDeclaration _ _).trans (keeps_checkMixedChains (fun _ _ _ => rfl) _)
  have hregistered : ∀ d ∈ ((Stage.registered names m).node id).attributes.values, d.cleanName = names.clean d.name :=
    attributeNames_registerSymbols names _ hid
  intro d hd
  have hmem : (d.name, d.cleanName) ∈ ((Stage.checked names m).node id).attributeNames := List.mem_map_of_mem hd
  rw [hnames.node] at hmem
  obtain ⟨d', hd', heq⟩ := List.mem_map.mp hmem
  obtain ⟨hname, hcleanName⟩ := Prod.mk.inj heq
  rw [← hname, ← hcleanName]
  exact hregistered d' hd'

/-- An attribute of a declaration has the clean name of its name, where no attribute is called like a child. -/
theorem Model.IsResolved.cleanName_of_attribute {names : NameTable} {r : Model} (h : r.IsResolved names) {id : NodeId}
    (hid : id ∈ r.declarations) (hapart : AttributesApart names r id) :
    ∀ d ∈ (r.node id).attributes.values, d.cleanName = names.clean d.name := by
  obtain ⟨m, -, rfl⟩ := h
  rw [declarations_resolve] at hid
  have hclean := cleanName_checked names hid
  have hlater : Keeps (fun n => n.attributes.values.map (·.name)) Symbols.elements (Stage.checked names m)
      (resolve names m).model :=
    (keeps_forEach (keeps_values_disambiguateNode fun _ _ => rfl) _ _).trans (keeps_markExtended (fun _ => rfl) _)
  have htree : Keeps (fun n => (n.cleanName, n.children, n.base)) Symbols.elements (Stage.checked names m)
      (resolve names m).model :=
    (keeps_disambiguateNames (fun _ _ => rfl) _).trans (keeps_markExtended (fun _ => rfl) _)
  have hkept : ((disambiguateNames (Stage.checked names m)).model.node id).attributes =
      ((Stage.checked names m).node id).attributes := by
    refine attributes_disambiguateNames fun d hd => ?_
    have hmem : d.name ∈ ((resolve names m).model.node id).attributes.values.map (·.name) := by
      rw [hlater.node]
      exact List.mem_map_of_mem hd
    obtain ⟨d', hd', hname⟩ := List.mem_map.mp hmem
    rw [hclean d hd, ← hname, ← childNames_congr htree]
    exact hapart d' hd'
  have hmarked : Keeps Node.attributes (fun _ => ()) (disambiguateNames (Stage.checked names m)).model
      (resolve names m).model :=
    keeps_markExtended (fun _ => rfl) _
  intro d hd
  rw [hmarked.node, hkept] at hd
  exact hclean d hd

end SchemaBinding
