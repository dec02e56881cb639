import SchemaBinding.Text.Blank

/-!
# `SchemaBinding.Diagnostics`: findings that stop nothing

What is odd about a schema is reported and worked around. A finding has a severity, the name of the node
it concerns, and a message. Findings keep the order in which they were made.
-/

set_option autoImplicit false

namespace SchemaBinding

/-- How much a finding matters. -/
inductive Severity where
  | info
  | warning
  | error
  deriving Repr, DecidableEq, Inhabited

namespace Severity

def label : Severity → String
  | info => "info"
  | warning => "warning"
  | error => "error"

/-- The place of a severity in the order of severities. -/
def rank : Severity → Nat
  | info => 0
  | warning => 1
  | error => 2

/-- The graver of two severities. -/
def max (a b : Severity) : Severity := if a.rank ≤ b.rank then b else a

end Severity

/-- A finding about a node, which is given by its name. -/
structure Diagnostic where
  severity : Severity
  node : String
  message : String
  deriving Repr, DecidableEq, Inhabited

/-- The finding on one line. A finding about no node in particular has no node part. -/
def Diagnostic.line (d : Diagnostic) : String :=
  if d.node.isEmpty then d.severity.label ++ ": " ++ d.message
  else d.severity.label ++ ": " ++ d.node ++ ": " ++ d.message

/-- Findings in the order in which they were made. -/
abbrev Diagnostics : Type := List Diagnostic

namespace Diagnostics

def info (node message : String) : Diagnostic := ⟨.info, node, message⟩

def warning (node message : String) : Diagnostic := ⟨.warning, node, message⟩

def error (node message : String) : Diagnostic := ⟨.error, node, message⟩

def hasErrors (ds : Diagnostics) : Bool := ds.any fun d => d.severity == .error

/-- The findings whose message holds a text. -/
def matching (ds : Diagnostics) (needle : String) : Diagnostics :=
  ds.filter fun d => Text.occursIn needle.toList d.message.toList

/-- The gravest severity, if there is any finding. -/
def highest? (ds : Diagnostics) : Option Severity :=
  ds.foldl (fun s d => some ((s.map (·.max d.severity)).getD d.severity)) none

end Diagnostics

end SchemaBinding
