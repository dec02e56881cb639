import SchemaBinding.Resolve.ExtensionChain
import SchemaBinding.Text.Quoted

/-!
# `SchemaBinding.Resolve.AttributeNames`: attributes named like elements

Attributes and child elements become fields of one type, so their names have to differ. An attribute with the
name of a child, its own or an inherited one, gets a suffix: `_attr`, or `_attr2` and so on when that
is taken too. The element keeps its name.
-/

set_option autoImplicit false

namespace SchemaBinding

open Text (quoted)

/-- The suffix to try first, second and so on. -/
def attributeSuffix (i : Nat) : String :=
  if i = 0 then "_attr" else "_attr" ++ toString (i + 1)

/-- The clean names of the children of the nodes along a chain. -/
def childNames (m : Model) (chain : List NodeId) : List String :=
  chain.flatMap fun link => (m.children link).map fun child => (m.node child).cleanName

/-- Whether a suffix leads to a name that is taken. -/
def suffixTaken (attributes : AttributeMap) (children : List String) (key cleanName suffix : String) :
    Bool :=
  attributes.contains (key ++ suffix) ||
    attributes.values.any (·.cleanName = cleanName ++ suffix) ||
    children.contains (cleanName ++ suffix)

/-- The first suffix that is free. One name can take one suffix only, so a free one is among the first
ones, as many as there are names and one more. -/
def freeSuffix (attributes : AttributeMap) (children : List String) (key cleanName : String) : String :=
  let count := 2 * attributes.size + children.length + 1
  let suffixes := (List.range count).map attributeSuffix
  (suffixes.find? (!suffixTaken attributes children key cleanName ·)).getD ""

/-- The finding for an attribute whose first choice of a name is taken. -/
def suffixClash (owner key : String) : Diagnostic :=
  Diagnostics.warning owner ("attribute " ++ quoted key ++ " clashes with a child element and " ++
    quoted (key ++ attributeSuffix 0) ++ " is taken")

/-- The finding for an attribute that got another name. -/
def attributeRenamed (owner key newKey : String) : Diagnostic :=
  Diagnostics.info owner ("attribute " ++ quoted key ++ " clashes with a child element; renamed to " ++
    quoted newKey)

/-- Gives an attribute of a node a name that no child has. -/
def renameAttribute (children : List String) (m : Model) (id : NodeId) (key : String) : Resolved :=
  let n := m.node id
  match n.attributes.get? key with
  | none => ⟨m, []⟩
  | some d =>
    let suffix := freeSuffix n.attributes children key d.cleanName
    let clash := if suffix = attributeSuffix 0 then [] else [suffixClash n.name key]
    match n.attributes.rename? key (key ++ suffix) with
    | none => ⟨m, clash⟩
    | some renamed =>
      let attributes := renamed.modify (key ++ suffix) fun d =>
        { d with cleanName := d.cleanName ++ suffix }
      ⟨m.modifyNode id fun n => { n with attributes := attributes },
        clash ++ [attributeRenamed n.name key (key ++ suffix)]⟩

/-- Renames the attributes of a node that are named like a child of a node along its chain. -/
def disambiguateNode (m : Model) (id : NodeId) : Resolved :=
  let children := childNames m (m.extensionChain id).nodes
  -- Which attributes clash is settled before the first of them is renamed.
  let clashing := (m.node id).attributes.entries.filter fun entry => children.contains entry.2.cleanName
  .forEach m (clashing.map (·.1)) fun m key => renameAttribute children m id key

/-- Renames every attribute that is named like a child. -/
def disambiguateNames (m : Model) : Resolved :=
  .forEach m m.declarations disambiguateNode

end SchemaBinding
