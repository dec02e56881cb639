import SchemaBinding.Code.Classes
import SchemaBinding.Code.Structs

/-!
# `SchemaBinding.Code.Target`: the kinds of code

The user chooses a kind of code by its name. A writer of either kind follows the calls one by one; the code can be
taken from it at any time.
-/

set_option autoImplicit false

namespace SchemaBinding

/-- A kind of code. -/
inductive Target where
  | structs
  | classes
  deriving Repr, DecidableEq, Inhabited

namespace Target

/-- The name by which the user chooses the kind. -/
def label : Target → String
  | structs => "rust"
  | classes => "typescript"

/-- The kind that is generated when the user chooses none. -/
def usual : Target := structs

def all : List Target := [structs, classes]

/-- The kind with a name. -/
def ofLabel? (s : String) : Option Target := all.find? fun target => target.label == s

end Target

/-- Code of some kind while it is written. -/
inductive Writer where
  | structs (w : StructWriter)
  | classes (w : ClassWriter)
  deriving Repr, Inhabited

namespace Writer

/-- A writer that has written nothing. -/
def ofTarget : Target → Writer
  | .structs => .structs {}
  | .classes => .classes {}

/-- Follows one call. -/
def step : Writer → Call → Except CodeError Writer
  | structs w, call => (w.step call).map structs
  | classes w, call => .ok (classes (w.step call))

/-- The finished code. -/
def code : Writer → String
  | structs w => w.file.text
  | classes w => w.code

/-- The writer once its code has been taken. -/
def taken : Writer → Writer
  | structs w => structs w.taken
  | classes w => classes w.taken

end Writer

/-- The code for a list of calls. -/
def Target.code (target : Target) (calls : List Call) : Except CodeError String :=
  (calls.foldlM Writer.step (Writer.ofTarget target)).map (·.code)

end SchemaBinding
