import SchemaBinding.Text.Casing

/-!
# `SchemaBinding.Config.Accessor`: names of accessors

The name of a field turns into the part that follows `get`, `set` and the like.
-/

set_option autoImplicit false

namespace SchemaBinding

/-- How accessors are named. -/
inductive AccessorStyle where
  /-- `name` becomes `_name`, as in `get_name`. -/
  | underscored
  /-- `name` becomes `Name`, as in `getName`. -/
  | capitalized
  deriving Repr, DecidableEq, Inhabited

/-- The name part of the accessors of a field. -/
def AccessorStyle.accessor : AccessorStyle → String → String
  | underscored, name => "_" ++ name
  | capitalized, name => Text.capitalized name

end SchemaBinding
