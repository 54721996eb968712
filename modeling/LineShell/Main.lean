import LineShell.Machine.Setup
import LineShell.Session.Run
import LineShell.Userland.Programs
/-!
# The program

Runs the shell on a machine in memory that has the installed programs and belongs to the user. The
files that the command line names are copied onto it, and the input when it is needed; what the
shell and its commands write is printed at the end.
-/

namespace LineShell.Main

/-- All bytes of a stream. -/
partial def readAll (stream : IO.FS.Stream) (taken : ByteArray) : IO ByteArray := do
  let part ← stream.read 65536
  if part.isEmpty then return taken else readAll stream (taken ++ part)

/-- The contents of a file of the real machine, if it can be read. -/
def fileBytes? (path : String) : IO (Option Bytes) := do
  try
    return some (← IO.FS.readBinFile path).toList
  catch _ => return none

/-- Copies a file onto the machine in memory. -/
def copyFile (t : FileTree) (path : Bytes) : IO FileTree := do
  match ← fileBytes? (String.ofList path.text) with
  | some content => return t.plant FileTree.root path (.file content 0o644)
  | none => return t

/-- The variables that the shell on the machine sees. -/
def environment : IO Environment := do
  let names := ["HOME", "USER", "BOSH_LOG", "XDG_CONFIG_HOME", "XDG_DATA_HOME"]
  let given ← names.filterMapM (fun name => do
    return (← IO.getEnv name).map (fun value => (name.toList, bytesOf value)))
  return given ++ [(Text.lit "PATH", bytesOf "/usr/local/bin:/usr/bin:/bin"),
    (Text.lit "PWD", bytesOf "/")]

/-- Where the directories of the user are. -/
def directories : Directories := .standard (some (bytesOf "/root"))

/-- The files that a command line makes the shell read. -/
def filesRead (env : Environment) (words : List Text) : List Bytes :=
  match CommandLine.parse words with
  | .error _ => []
  | .ok cmd =>
    [(cmd.config.map Text.bytes).getD (Configuration.defaultFile directories env)] ++
      (cmd.script.map Text.bytes).toList

/-- Whether a command line makes the shell read its input. -/
def readsInput (words : List Text) : Bool :=
  match CommandLine.parse words with
  | .error _ => false
  | .ok cmd => cmd.command.isNone && cmd.script.isNone

/-- At most this many lines are run. -/
def lineLimit : Nat := 1000000000

/-- The exit code for a status. -/
def exitCode : Status → UInt32
  | .exited code => (code % 256).toUInt32
  | .killed signal => (128 + signal).toUInt32

end LineShell.Main

open LineShell LineShell.Main in
/-- Runs the shell with the words of a command line. -/
def main (args : List String) : IO UInt32 := do
  let words := args.map String.toList
  let env ← environment
  let tree ← (filesRead env words).foldlM copyFile (FileTree.privateInstallation Userland.installed)
  let input ← if readsInput words then do
      pure (← readAll (← IO.getStdin) ByteArray.empty).toList
    else pure []
  let world := World.start tree FileTree.root env directories Userland.standard (.bytes input)
  let act : Proc Status := do
    let (ending, _) ← Session.program words lineLimit []
    Session.status ending
  let (status, world) := act.run world
  let stdout ← IO.getStdout
  stdout.write ⟨world.machine.out.toArray⟩
  stdout.flush
  let stderr ← IO.getStderr
  stderr.write ⟨world.machine.err.toArray⟩
  stderr.flush
  return exitCode status
