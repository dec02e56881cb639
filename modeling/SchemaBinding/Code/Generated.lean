import SchemaBinding.Binding.Generation
import SchemaBinding.Code.Target
import SchemaBinding.Resolve

/-!
# `SchemaBinding.Code.Generated`: code for a schema

The whole way from the text of a schema to generated code.
-/

set_option autoImplicit false

namespace SchemaBinding

/-- Why there is no code for a schema. -/
inductive GenerationError where
  | schema (cause : SchemaError)
  | code (cause : CodeError)
  deriving Repr, DecidableEq, Inhabited

/-- The code for a schema, the report on its types, and all findings: those of resolution, and then those of
the report. -/
structure GeneratedCode where
  code : String
  report : Report
  findings : Diagnostics
  deriving Repr, DecidableEq, Inhabited

/-- Reads a schema, resolves it and generates code. -/
def generateCode (config : Config) (target : Target) (prefixOverride : Option String) (source : String) :
    Except GenerationError GeneratedCode := do
  let resolved ← (readSchema prefixOverride config.nameTable source).mapError .schema
  let generated := generate config resolved.model
  let code ← (target.code generated.calls).mapError .code
  return ⟨code, generated.report, resolved.findings ++ generated.report.findings⟩

end SchemaBinding
