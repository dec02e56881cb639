import SchemaBinding.Config.Accessor
import SchemaBinding.Config.Method
import SchemaBinding.Schema.Names
import SchemaBinding.Text.Quoted

/-!
# `SchemaBinding.Config`: what the user may choose

A configuration replaces names, chooses how accessors are named, and adds members to generated types.
-/

set_option autoImplicit false

namespace SchemaBinding

/-- The choices of the user. -/
structure Config where
  nameTable : NameTable := ∅
  accessorStyle : AccessorStyle := .underscored
  methods : List MethodSpec := []
  deriving Repr, DecidableEq, Inhabited

/-- Why a text is no configuration. -/
inductive ConfigError where
  | parse
  | pattern (written : String)
  deriving Repr, DecidableEq, Inhabited

def ConfigError.message : ConfigError → String
  | parse => "invalid config file"
  | pattern written => "invalid pattern " ++ Text.quoted written ++ " in method spec"

/-- The method specs of written patterns with their sources. The first pattern that is none is the error. -/
def MethodSpec.ofList (written : List (String × String)) : Except ConfigError (List MethodSpec) :=
  written.mapM fun (pattern, source) =>
    match MethodSpec.ofString? pattern source with
    | some spec => .ok spec
    | none => .error (.pattern pattern)

end SchemaBinding
