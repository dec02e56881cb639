import SchemaBinding.Schema.Builtins
import SchemaBinding.Schema.Declaration
import SchemaBinding.Schema.Names

/-!
# `SchemaBinding.Schema.Model`: the nodes of a schema and its registries

A model holds its nodes in one array and refers to them by index, so that two parents may share a child.
Registries beside the array give declarations by name. The preorder of a node lists what it reaches,
each node once; it ends on every graph, since each step lists a new node or shortens the work list.
-/

set_option autoImplicit false

namespace SchemaBinding

/-- Declarations by name. -/
structure Symbols where
  elements : Table NodeId := ∅
  simpleTypes : Table SimpleTypeDef := ∅
  attributeGroups : Table AttributeGroupDef := ∅
  /-- The definitions of groups; the children of such a node are the content of the group. -/
  elementGroups : Table NodeId := ∅
  /-- The members of each substitution group, by its head and in the order of declaration. -/
  substitutionGroups : Table (List String) := ∅
  /-- The names of the simple types that stand directly below the root. -/
  topLevelSimpleTypes : List String := []
  deriving Repr, DecidableEq, Inhabited

namespace Symbols

/-- The registered node of a name. -/
def element? (s : Symbols) (name : String) : Option NodeId := s.elements.get? name

/-- Registers a node. It takes the place of an earlier one of the same name. -/
def registerElement (s : Symbols) (name : String) (id : NodeId) : Symbols :=
  { s with elements := s.elements.insert name id }

/-- A simple type by its name. Registered names are cleaned, so the cleaned name is tried second. -/
def simpleType? (s : Symbols) (name : String) : Option SimpleTypeDef :=
  match s.simpleTypes.get? name with
  | some d => some d
  | none => s.simpleTypes.get? (cleanup name)

/-- Registers a simple type under its name. -/
def registerSimpleType (s : Symbols) (d : SimpleTypeDef) : Symbols :=
  { s with simpleTypes := s.simpleTypes.insert d.name d }

/-- The members of the substitution group of `head`. -/
def substitutes (s : Symbols) (head : String) : List String :=
  (s.substitutionGroups.get? head).getD []

/-- Adds a member to a substitution group. -/
def addSubstitute (s : Symbols) (head member : String) : Symbols :=
  { s with substitutionGroups := s.substitutionGroups.insert head (s.substitutes head ++ [member]) }

end Symbols

/-- A schema: its nodes, its registries, and what the root says about namespaces. -/
structure Model where
  nodes : Array Node
  symbols : Symbols := {}
  builtins : Builtins := default
  targetNamespace : Option String := none
  deriving Repr, DecidableEq

namespace Model

/-- The model with the schema root alone. -/
def empty : Model := { nodes := #[Node.ofKind .schema "schema"] }

instance : Inhabited Model := ⟨empty⟩

/-- The schema root. -/
def root : NodeId := ⟨0⟩

/-- The node at a place. -/
def node (m : Model) (id : NodeId) : Node := m.nodes.getD id.index default

/-- Changes the node at a place. -/
def modifyNode (m : Model) (id : NodeId) (f : Node → Node) : Model :=
  { m with nodes := m.nodes.modify id.index f }

/-- The place that the next node gets. -/
def nextId (m : Model) : NodeId := ⟨m.nodes.size⟩

/-- Adds a node at the end. -/
def addNode (m : Model) (n : Node) : Model := { m with nodes := m.nodes.push n }

def modifySymbols (m : Model) (f : Symbols → Symbols) : Model :=
  { m with symbols := f m.symbols }

def size (m : Model) : Nat := m.nodes.size

/-- Whether the model has no node besides the root. -/
def isEmpty (m : Model) : Bool := m.nodes.size ≤ 1

def children (m : Model) (id : NodeId) : List NodeId := (m.node id).children

/-- The declarations directly below the root. -/
def topLevel (m : Model) : List NodeId := m.children root

/-- The registered node of a name. -/
def element? (m : Model) (name : String) : Option NodeId := m.symbols.element? name

def simpleType? (m : Model) (name : String) : Option SimpleTypeDef := m.symbols.simpleType? name

/-- The places that a list does not hold yet. -/
def unlisted (m : Model) (order : List NodeId) : Nat :=
  ((List.range m.nodes.size).filter fun i => !order.contains ⟨i⟩).length

theorem unlisted_congr {m₁ m₂ : Model} (h : m₁.nodes.size = m₂.nodes.size) {order : List NodeId} :
    m₁.unlisted order = m₂.unlisted order := by
  simp [unlisted, h]

theorem unlisted_concat_lt {m : Model} {order : List NodeId} {id : NodeId}
    (hnew : order.contains id = false) (hid : id.index < m.nodes.size) :
    m.unlisted (order ++ [id]) < m.unlisted order := by
  unfold unlisted
  -- A longer list leaves no more places unlisted.
  have hsub : ∀ l : List Nat,
      (l.filter fun i => !(order ++ [id]).contains ⟨i⟩).length
        ≤ (l.filter fun i => !order.contains ⟨i⟩).length := by
    intro l
    induction l with
    | nil => simp
    | cons a l ih =>
        by_cases ha : order.contains (⟨a⟩ : NodeId)
        · simp_all
        · by_cases hb : (⟨a⟩ : NodeId) = id <;> simp_all
          omega
  -- The place of `id` itself counts on the right side only.
  have hmem : id.index ∈ List.range m.nodes.size := List.mem_range.mpr hid
  obtain ⟨before, after, hsplit⟩ := List.append_of_mem hmem
  have h₁ := hsub before
  have h₂ := hsub after
  clear hsub
  simp only [hsplit, List.filter_append, List.filter_cons, List.length_append, hnew]
  simp only [List.contains_append, List.contains_cons, BEq.rfl, Bool.true_or, Bool.or_true, Bool.not_true,
    Bool.not_false, if_true, if_false, Bool.false_eq_true, List.length_cons]
  simp only [List.contains_append, List.contains_cons] at h₁ h₂
  omega

/-- The nodes that the work list reaches, after those already listed. A node is listed when it comes off
the work list for the first time, and its children then go in front. A place outside the array holds
no node and is passed over. -/
def preorderLoop (m : Model) (order : List NodeId) : List NodeId → List NodeId
  | [] => order
  | id :: rest =>
    if _h : order.contains id = false ∧ id.index < m.nodes.size then
      preorderLoop m (order ++ [id]) (m.children id ++ rest)
    else preorderLoop m order rest
  termination_by work => (m.unlisted order, work.length)
  decreasing_by
    · exact Prod.Lex.left _ _ (unlisted_concat_lt _h.1 _h.2)
    · exact Prod.Lex.right _ (by simp)

/-- The nodes that `start` reaches, each once: a node before its children, and the children in order. -/
def preorderFrom (m : Model) (start : NodeId) : List NodeId :=
  m.preorderLoop [] [start]

/-- The nodes that the root reaches. -/
def preorder (m : Model) : List NodeId := m.preorderFrom root

end Model

end SchemaBinding
