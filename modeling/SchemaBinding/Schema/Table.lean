/-!
# `SchemaBinding.Schema.Table`: ordered tables

A table maps names to values and remembers the order in which the names came. Attributes of a type,
registered declarations and name replacements are all kept in tables. A stored name keeps its place when
its value is replaced, and a renamed one keeps both its place and its value.
-/

set_option autoImplicit false

namespace SchemaBinding

/-- Values by name, in the order of their first insertion. -/
structure Table (α : Type) where
  entries : List (String × α)
  deriving Repr, DecidableEq

namespace Table

variable {α : Type}

instance : EmptyCollection (Table α) := ⟨⟨[]⟩⟩

instance : Inhabited (Table α) := ⟨∅⟩

/-- The names, in order. -/
def keys (t : Table α) : List String := t.entries.map (·.1)

/-- The values, in the order of their names. -/
def values (t : Table α) : List α := t.entries.map (·.2)

def size (t : Table α) : Nat := t.entries.length

def isEmpty (t : Table α) : Bool := t.entries.isEmpty

/-- The value under a name. -/
def get? (t : Table α) (key : String) : Option α :=
  (t.entries.find? (·.1 == key)).map (·.2)

def contains (t : Table α) (key : String) : Bool :=
  t.entries.any (·.1 == key)

/-- Changes the first entry with a name, where there is one. -/
def modifyFirst (key : String) (f : String × α → String × α) :
    List (String × α) → List (String × α)
  | [] => []
  | entry :: rest => if entry.1 == key then f entry :: rest else entry :: modifyFirst key f rest

/-- Stores a value. A new name goes to the end; the value of a present one is replaced in place. -/
def insert (t : Table α) (key : String) (value : α) : Table α :=
  if t.contains key then ⟨modifyFirst key (fun entry => (entry.1, value)) t.entries⟩
  else ⟨t.entries ++ [(key, value)]⟩

/-- Changes the value under a name, where there is one. -/
def modify (t : Table α) (key : String) (f : α → α) : Table α :=
  ⟨modifyFirst key (fun entry => (entry.1, f entry.2)) t.entries⟩

/-- Gives an entry another name. There is no result when the old name is absent or the new one taken. -/
def rename? (t : Table α) (old new : String) : Option (Table α) :=
  if t.contains new || !t.contains old then none
  else some ⟨modifyFirst old (fun entry => (new, entry.2)) t.entries⟩

/-- Changes the value that stands last, where there is one. -/
def modifyLast (t : Table α) (f : α → α) : Table α :=
  match t.entries.getLast? with
  | none => t
  | some (key, value) => ⟨t.entries.dropLast ++ [(key, f value)]⟩

/-- Changes every value. -/
def map (t : Table α) (f : α → α) : Table α :=
  ⟨t.entries.map fun entry => (entry.1, f entry.2)⟩

/-- Stores several values, one after the other. -/
def insertAll (t : Table α) (new : List (String × α)) : Table α :=
  new.foldl (fun t entry => t.insert entry.1 entry.2) t

/-- The table of a list of entries. Of two with one name the later counts. -/
def ofList (new : List (String × α)) : Table α := insertAll ∅ new

end Table

end SchemaBinding
