import LineShell.Userland.Interpreter.Run
/-!
# The command interpreter

Runs command scripts: `sh -c text name args`, `sh file args`, or a script from the input. Commands
that are no builtins of the interpreter run as children of it, through `start`, which gives a
program its context and takes it to its end.
-/

namespace LineShell.Userland.Interpreter

/-- The working directory as it was walked to. The published one counts only while it leads to where
the process stands. -/
def logicalDirectory (c : Context) : Bytes :=
  let physical := (c.machine.tree.pathOf? c.self.directory).getD []
  match Table.get? (Text.lit "PWD") c.self.environment with
  | none => physical
  | some path =>
    match c.machine.tree.find true c.self.directory path with
    | .ok i => if i = c.self.directory && Path.isAbsolute path then path else physical
    | .error _ => physical

/-- The state in which a script begins. -/
def State.atStart (locked : Bool) (c : Context) (flags : Flags) (scriptName : Bytes)
    (positional : List Bytes) : State :=
  let logical := logicalDirectory c
  let bindings := variablesOf c.self.environment
  { scriptName := scriptName
    positional := positional
    last := 0
    substituted := 0
    pid := c.self.pid
    parent := c.self.parent
    line := 1
    title := none
    bindings := Table.put (bytesOf "PWD") ⟨some logical, true, false⟩ bindings
    functions := []
    inFunction := false
    shadowed := []
    loops := 0
    logical := logical
    flags := flags
    traps := []
    locked := locked
    pending := []
    jobs := []
    optionOffset := 0 }

/-- More than the depth of the commands in any script that fits on a command line. -/
def depthOf (script : Bytes) : Nat := script.length + 1000

/-- The interpreter as a program. -/
def program (locked : Bool) (start : Start) : Program := fun name args => do
  let c ← (get : Call Context)
  let complainAtStart := fun (message : Bytes) =>
    err (name ++ bytesOf ": 0: " ++ message ++ [10])
  if (logicalDirectory c).isEmpty then
    complainAtStart (bytesOf "getcwd() failed: No such file or directory")
  match FlagWords.read true { flags := {}, rest := [] } args with
  | .error letter =>
    complainAtStart (bytesOf "Illegal option " ++ letter)
    return 2
  | .ok r =>
    let begin_ := fun (scriptName : Bytes) (positional : List Bytes) (script : Bytes) => do
      let engine : Engine := ⟨start, run start (depthOf script)⟩
      let s := State.atStart locked c r.flags scriptName positional
      let (result, _) ← (toTheEnd engine (runText engine script)).run.run s
      return (result.toOption.getD 2) % 256
    if r.givesScript then
      match r.rest with
      | [] =>
        complainAtStart (bytesOf "-c requires an argument")
        return 2
      | [script] => begin_ name [] script
      | script :: scriptName :: positional => begin_ scriptName positional script
    else match (if r.readsInput then none else r.rest.head?) with
      | some file =>
        match ← readOperand file with
        | .stream s => begin_ file (r.rest.drop 1) s.bytes
        | .notOpened e =>
          let reason := if e = .noEntry || e = .notDirectory then bytesOf "No such file"
            else e.description.bytes
          complainAtStart (bytesOf "cannot open " ++ file ++ bytesOf ": " ++ reason)
          return 2
        | .notRead _ => return 0
      | none =>
        match ← slurp 0 with
        | .ok s => begin_ name r.rest s.bytes
        | .error _ => return 0

end LineShell.Userland.Interpreter
