import SchemaBinding.Schema.Table

/-!
# `SchemaBinding.Schema.Names`: names fit for generated code

A schema name may hold characters that no identifier holds. `cleanup` replaces them, and a name table
supplied by the user replaces whole names afterwards, to steer clear of reserved words.
-/

set_option autoImplicit false

namespace SchemaBinding

/-- The character that stands for `c` in a cleaned name. -/
def cleanupChar (c : Char) : Char :=
  if c = ':' || c = '-' || c = '.' then '_' else c

/-- A name with `:`, `-` and `.` replaced by `_`. -/
def cleanup (name : String) : String :=
  String.ofList (name.toList.map cleanupChar)

/-- Replacements of cleaned names. -/
abbrev NameTable : Type := Table String

namespace NameTable

/-- The replacement of a name, which is the name itself when the table has none. -/
def replace (t : NameTable) (name : String) : String :=
  (t.get? name).getD name

/-- The identifier for a schema name. -/
def clean (t : NameTable) (name : String) : String :=
  replace t (cleanup name)

end NameTable

end SchemaBinding
