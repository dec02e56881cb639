import SchemaBinding.Resolve.Pass

/-!
# `SchemaBinding.Resolve.Registration`: clean names and registered declarations

Every declaration gets a clean name, and so does each of its attributes. A declaration that others may name as
a type or a base is registered under its own name: the top-level ones, and those with children,
attributes or a base. A later declaration takes the place of an earlier one, which is reported.
-/

set_option autoImplicit false

namespace SchemaBinding

/-- A node with clean names for itself and its attributes. -/
def cleanNames (names : NameTable) (n : Node) : Node :=
  { n with
    cleanName := names.clean n.name
    attributes := n.attributes.map fun d => { d with cleanName := names.clean d.name } }

/-- Whether other declarations may name this one. -/
def Node.isRegistered (n : Node) : Bool :=
  !n.name.isEmpty &&
    (n.isTopLevel || !n.children.isEmpty || !n.attributes.isEmpty || n.base.isSome)

/-- The finding for a second declaration of a name. -/
def declaredAgain (name : String) : Diagnostic :=
  Diagnostics.warning name "declared more than once; the later declaration replaces the earlier one"

/-- Cleans the names of a node, and registers it if others may name it. -/
def registerNode (names : NameTable) (m : Model) (id : NodeId) : Resolved :=
  let cleaned := m.modifyNode id (cleanNames names)
  let n := cleaned.node id
  if n.isRegistered then
    let displaced := (cleaned.element? n.name).any (· ≠ id)
    ⟨cleaned.modifySymbols (·.registerElement n.name id),
      if displaced then [declaredAgain n.name] else []⟩
  else ⟨cleaned, []⟩

/-- Cleans every name and registers the declarations. -/
def registerSymbols (names : NameTable) (m : Model) : Resolved :=
  .forEach m m.declarations (registerNode names)

end SchemaBinding
