/-!
# `SchemaBinding.Code.Title`: what the program calls itself

Generated code names the program that made it, and the command line answers with the same name.
-/

set_option autoImplicit false

namespace SchemaBinding

/-- The name of the program. -/
def programName : String := "xsdgen"

/-- The name of the program and its version. -/
def programTitle : String := programName ++ " 0.1.0"

/-- The sentence at the top of generated code. -/
def generatedBy : String := "Generated by " ++ programTitle

end SchemaBinding
