import SchemaBinding.Schema.Table

/-!
# `SchemaBinding.Command.Files`: the files that a run can reach

A run reads a few files and writes at most one. What it can reach is a table of texts by path, together
with the folders that files may be put into.
-/

set_option autoImplicit false

namespace SchemaBinding

/-- What stands in the way of reading or writing a file. -/
inductive FileError where
  | notFound
  | notFolder
  | isFolder
  | alreadyExists (path : String)
  deriving Repr, DecidableEq, Inhabited

def FileError.message : FileError → String
  | notFound => "No such file or directory (os error 2)"
  | notFolder => "Not a directory (os error 20)"
  | isFolder => "Is a directory (os error 21)"
  | alreadyExists path => path ++ " already exists; pass --force to overwrite it"

/-- The parts of a path that lead somewhere. -/
def pathParts (path : String) : List String :=
  ((path.toList.splitOn '/').map String.ofList).filter fun part => part ≠ "" && part ≠ "."

/-- A path made of parts. The path of a file at the root begins with a slash. -/
def pathOfParts (isRooted : Bool) (parts : List String) : String :=
  (if isRooted then "/" else "") ++ "/".intercalate parts

/-- Whether a path begins at the root. -/
def isRooted (path : String) : Bool := path.toList.head? = some '/'

/-- The form of a path under which a file is kept. -/
def normalPath (path : String) : String := pathOfParts (isRooted path) (pathParts path)

/-- The folder that a path leads to a file in. -/
def parentPath (path : String) : String := pathOfParts (isRooted path) (pathParts path).dropLast

/-- Texts by path, and the folders besides the working folder. -/
structure Files where
  texts : Table String
  folders : List String := []
  deriving Repr, DecidableEq, Inhabited

namespace Files

/-- What a path leads to. -/
inductive Place where
  | file (text : String)
  | folder
  /-- A place for a new file. -/
  | free
  | unreachable (cause : FileError)
  deriving Repr, DecidableEq, Inhabited

/-- Whether a path in its normal form is that of a folder. The empty one is that of the working folder. -/
def isFolder (fs : Files) (path : String) : Bool := path.isEmpty || fs.folders.contains path

/-- Whether a path leads through a file. -/
def isBlocked (fs : Files) (path : String) : Bool :=
  let parts := pathParts path
  (List.range parts.length).any fun n => fs.texts.contains (pathOfParts (isRooted path) (parts.take n))

/-- What a path leads to. -/
def place (fs : Files) (path : String) : Place :=
  if path.isEmpty then .unreachable .notFound
  else if fs.isFolder (normalPath path) then .folder
  else
    match fs.texts.get? (normalPath path) with
    | some text => .file text
    | none =>
      if fs.isFolder (parentPath path) then .free
      else if fs.isBlocked path then .unreachable .notFolder
      else .unreachable .notFound

/-- The text of a file. -/
def read (fs : Files) (path : String) : Except FileError String :=
  match fs.place path with
  | .file text => .ok text
  | .folder => .error .isFolder
  | .free => .error .notFound
  | .unreachable cause => .error cause

/-- Whether a path leads to a file or a folder. -/
def contains (fs : Files) (path : String) : Bool :=
  match fs.place path with
  | .file _ | .folder => true
  | .free | .unreachable _ => false

/-- Writes a file, over an old one if there is one. -/
def put (fs : Files) (path text : String) : Except FileError Files :=
  match fs.place path with
  | .file _ | .free => .ok { fs with texts := fs.texts.insert (normalPath path) text }
  | .folder => .error .isFolder
  | .unreachable cause => .error cause

/-- Writes a file. An old one stays unless it is to be overwritten. -/
def write (fs : Files) (path text : String) (overwrite : Bool) : Except FileError Files :=
  if !overwrite && fs.contains path then .error (.alreadyExists path) else fs.put path text

end Files

end SchemaBinding
