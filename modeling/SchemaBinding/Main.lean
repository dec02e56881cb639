import SchemaBinding.Command

/-!
# `SchemaBinding.Main`: the program

The outermost layer. It looks up the files that the arguments name, runs the command without a network, and puts
what the run leaves behind into the world.
-/

set_option autoImplicit false

open SchemaBinding

/-- The files that some paths lead to. The folders that the paths lead to files in count as present. -/
def filesAt (paths : List String) : IO Files := do
  let mut files : Files := { texts := ∅, folders := paths.map parentPath }
  for path in paths do
    if let .ok bytes ← (IO.FS.readBinFile path).toBaseIO then
      files := { files with texts := files.texts.insert (normalPath path) ((String.fromUTF8? bytes).getD "") }
  return files

/-- Runs the program. -/
def main (args : List String) : IO UInt32 := do
  let paths := match Arguments.ofList args with
    | .ok a => [a.config, a.input, a.output].filterMap id
    | .error _ => []
  let files ← filesAt paths
  let input ← if paths.contains Command.standardInput then (← IO.getStdin).readToEnd else pure ""
  let outcome := Command.run args files input
  for (path, text) in outcome.files.texts.entries do
    if files.texts.get? path != some text then IO.FS.writeFile path text
  IO.print outcome.printed
  IO.eprint outcome.messages
  return outcome.exitCode.toUInt32
