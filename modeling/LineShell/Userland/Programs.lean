import LineShell.Userland.Attributes
import LineShell.Userland.Copying
import LineShell.Userland.Counts
import LineShell.Userland.Directories
import LineShell.Userland.Editing
import LineShell.Userland.Ends
import LineShell.Userland.Interpreter
import LineShell.Userland.Links
import LineShell.Userland.Removal
import LineShell.Userland.Selection
import LineShell.Userland.Words
/-!
# The installed programs

Every program by name. `runImage` runs an image to its end; programs that start others, the command
interpreter and `env`, do so with one level of depth less.
-/

namespace LineShell.Userland

/-- The programs that start no others. -/
def plainPrograms : List (String × Program) :=
  [("basename", basename), ("cat", cat), ("chmod", chmod), ("cp", cp), ("cut", cut),
    ("dirname", dirname), ("echo", echo), ("false", fail), ("grep", grep), ("head", head),
    ("link", link), ("ln", ln), ("ls", ls), ("mkdir", mkdir), ("mv", mv), ("printenv", printenv),
    ("printf", printf), ("pwd", pwd), ("readlink", readlink), ("realpath", realpath), ("rm", rm),
    ("rmdir", rmdir), ("sed", sed), ("seq", seq), ("sleep", sleep), ("sort", sort), ("stat", stat),
    ("tac", tac), ("tail", tail), ("tee", tee), ("test", test), ("[", test), ("touch", touch),
    ("tr", tr), ("true", succeed), ("truncate", truncate), ("uniq", uniq), ("unlink", unlink),
    ("wc", wc), ("yes", yes)]

/-- The names of all installed programs. -/
def installed : List Text :=
  plainPrograms.map (fun p => p.1.toList) ++ [Text.lit "sh", Text.lit "dash", Text.lit "env"]

/-- How the environment of `env` is thinned out before variables are added. -/
structure Thinning where
  clear : Bool
  removed : List Bytes

/-- Splits off the options of `env`, which end at the first word that is none. -/
def Thinning.read (t : Thinning) : List Bytes → Thinning × List Bytes
  | [] => (t, [])
  | [word] => if word = bytesOf "-i" then ({ t with clear := true }, []) else (t, [word])
  | word :: next :: rest =>
    if word = bytesOf "-i" then Thinning.read { t with clear := true } (next :: rest)
    else if word = bytesOf "-u" then
      Thinning.read { t with removed := t.removed ++ [next] } rest
    else (t, word :: next :: rest)

/-- The environment that is left. -/
def Thinning.apply (t : Thinning) (environment : Environment) : Environment :=
  if t.clear then []
  else environment.filter (fun e => !t.removed.contains e.1.bytes)

/-- Runs a program, or shows the variables, in an environment with some variables more. -/
def env (start : Image → Call Status) : Program := fun name args => do
  let (thinning, args) := Thinning.read ⟨false, []⟩ args
  let settings := args.takeWhile (fun a => a.contains (byte '='))
  (modify fun c => { c with self :=
    { c.self with environment := thinning.apply c.self.environment } } : Call Unit)
  settings.forM (fun a =>
    let variableName := a.takeWhile (· != byte '=')
    (Call.setVariable (Bytes.text variableName) (a.drop (variableName.length + 1)) : Call Unit))
  match args.drop settings.length with
  | [] => printenv name []
  | command :: rest =>
    match ← (Call.exec command (command :: rest) : Call _) with
    | .ok image => halt (← (start image : Call _))
    | .error e =>
      complainOf name (Quoting.always command) e
      return if e = .noEntry then 127 else 126

/-- What a program says when its output cannot be written. -/
def outputComplaint (program : Text) : Bytes :=
  match String.ofList program with
  | "head" | "tail" => bytesOf "error writing 'standard output'"
  | "sort" => bytesOf "write failed: 'standard output'"
  | "tee" => bytesOf "'standard output'"
  | "yes" => bytesOf "standard output"
  | "sed" => bytesOf "couldn't flush stdout"
  | _ => bytesOf "write error"

/-- The exit code of a program whose output cannot be written. -/
def outputFailure (program : Text) : Nat :=
  match String.ofList program with
  | "sort" | "ls" | "printenv" | "grep" => 2
  | "sed" => 4
  | "env" => 125
  | _ => 1

/-- Runs a program to its end, and says so when its output could not be written. -/
def finish (image : Image) (p : Program) : Call Status := do
  let name := image.argv.head?.getD []
  match ← (p name (image.argv.drop 1)).run with
  | .ok code => return .exited code
  | .error (.ended status) => return status
  | .error (.unwritten e) =>
    let _ ← (complainOf name (outputComplaint image.program) e).run
    return .exited (outputFailure image.program)

/-- How deep programs may start each other. -/
def depthLimit : Nat := 64

/-- Runs an image to its end, starting others at most `depth` levels deep. The action on an
interrupt may be locked, for it and for all that it starts. -/
def runImage (locked : Bool) : Nat → Image → Call Status
  | 0, _ => return .exited 126
  | depth + 1, image => do
    if image.program = Text.lit "sh" || image.program = Text.lit "dash" then
      finish image (Interpreter.program locked (runImage locked depth))
    else if image.program = Text.lit "env" then finish image (env (runImage locked depth))
    else match plainPrograms.find? (fun p => p.1.toList == image.program) with
      | some (_, p) => finish image p
      | none => return .exited 127

/-- What the installed programs do. -/
def standard : Image → Call Status := runImage false depthLimit

/-- What they do where no process can change its action on an interrupt. -/
def locked : Image → Call Status := runImage true depthLimit

end LineShell.Userland
