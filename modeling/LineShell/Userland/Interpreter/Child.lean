import LineShell.Userland.Interpreter.Redirection
import LineShell.Userland.Interpreter.Signal
import LineShell.Userland.Script.Reader
/-!
# Children of the interpreter

Running a whole script, and running commands and programs as children. A child gets a copy of the
process and of the state; whatever it does to them ends with it. What it does to the machine stays.

`Engine` is what these parts need of the whole: how programs start, and how commands run.
-/

namespace LineShell.Userland.Interpreter

open LineShell.Userland.Script

/-- What parts of the interpreter need of the whole. -/
structure Engine where
  start : Start
  /-- Runs a command; the flag says that its failure is asked for. -/
  run : Bool → Command → Interp Nat

/-- Runs the lines of a script in order. -/
def runLines (engine : Engine) : Nat → Nat → Input → Interp Nat
  | 0, code, _ => return code
  | fuel + 1, code, input => do
    match Script.next? input with
    | .error (fault, line) =>
      modify fun s => { s with line := line }
      refuse fault.message
    | .ok none => return code
    | .ok (some (.nothing, rest)) => runLines engine fuel code rest
    | .ok (some (c, rest)) =>
      if (← get).flags.onlyReads then runLines engine fuel code rest
      else runLines engine fuel (← engine.run false c) rest

/-- Runs a script. -/
def runText (engine : Engine) (script : Bytes) : Interp Nat :=
  runLines engine (script.length + 1) 0 (.ofScript script)

/-- Runs an action to its end: a jump out of it is its end too. -/
def untilJump (act : Interp Nat) : Interp Nat :=
  tryCatch act fun jump => do
    match jump with
    | .leave code | .leaveFunction code => return code
    | .refused => return 2
    | .breakLoops _ | .continueLoops _ => return (← get).last

/-- Runs an action to its end, and then what is to be done at the end of the interpreter. -/
def toTheEnd (engine : Engine) (act : Interp Nat) : Interp Nat := do
  let code ← untilJump act
  match Table.get? 0 (← get).traps with
  | none | some [] => return code
  | some action =>
    modify fun s => { s with
      traps := Table.remove 0 s.traps
      last := code
      title := none }
    tryCatch (do
      let _ ← runText engine action
      return code) fun jump =>
        return match jump with
          | .leave code => code
          | .refused => 2
          | _ => code

/-- Runs an action as a child does: whatever it does to the process and to the state is undone, and
its end is only its own. -/
def inChild (engine : Engine) (act : Interp Nat) : Interp Nat := do
  let before := (← context).self
  let s ← get
  let forgetful := { s with
    traps := s.traps.filter (fun t => t.2.isEmpty)
    jobs := []
    loops := 0 }
  let code ← (tryCatch (do
      let (result, _) ← ((toTheEnd engine act).run.run forgetful)
      return (result.toOption).getD 2)
    (fun stop => match stop with
      | .ended status => return codeOfStatus status
      | .unwritten _ => return 1) : Run Nat)
  let c ← context
  setContext { c with self := before }
  return code

/-- Runs an action in a child and returns what it writes. -/
def captured (engine : Engine) (act : Interp Nat) : Interp (Nat × Bytes) := do
  match ← (Call.pipe : Call (Except Errno (Nat × Nat))) with
  | .error _ => refuse (bytesOf "Pipe call failed")
  | .ok (readEnd, writeEnd) =>
    let code ← inChild engine do
      let _ ← (Call.duplicateTo writeEnd 1 : Call (Except Errno Unit))
      (Call.close readEnd : Call Unit)
      (Call.close writeEnd : Call Unit)
      act
    let written ← (Call.peek readEnd : Call (Except Errno Stream))
    (Call.close readEnd : Call Unit)
    (Call.close writeEnd : Call Unit)
    return (code, (written.toOption.map Stream.bytes).getD [])

/-- What a substitution puts in place of its commands. -/
def substitution (engine : Engine) : Substitute := fun body => do
  let (code, written) ← captured engine (engine.run false body)
  modify fun s => { s with substituted := code }
  return written

/-- Runs a program in the present context, as the last thing that this process does. It is searched
for in the directories that the interpreter knows, even if programs are not shown them. -/
def become (engine : Engine) (words : List Bytes) : Interp Status := do
  let name := words.head?.getD []
  let environment := environmentOf (← get).bindings
  let path := Table.put (Text.lit "PATH") ((← value? (bytesOf "PATH")).getD []) environment
  let setEnvironment := fun (e : Environment) => do
    let c ← context
    setContext { c with self := { c.self with environment := e } }
  setEnvironment path
  match ← (Call.exec name words : Call (Except Errno Image)) with
  | .ok image => do
    setEnvironment environment
    (engine.start image : Call Status)
  | .error e =>
    if e = .noEntry || e = .notDirectory then
      say (name ++ bytesOf ": not found")
      return .exited 127
    else
      say (name ++ bytesOf ": " ++ e.description.bytes)
      return .exited 126

/-- Runs a program in a child. -/
def runProgram (engine : Engine) (words : List Bytes) : Interp Nat := do
  let before := (← context).self
  let c ← context
  setContext { c with self := { before with pid := before.pid + 1, parent := before.pid } }
  let status ← become engine words
  let c ← context
  setContext { c with self := before }
  match status with
  | .killed signal => (err (signalWords signal) : Run Unit)
  | .exited _ => pure ()
  return codeOfStatus status

/-- Runs two actions in children, with a pipe from the first to the second. -/
def piped (engine : Engine) (first second : Interp Nat) : Interp Nat := do
  match ← (Call.pipe : Call (Except Errno (Nat × Nat))) with
  | .error _ => refuse (bytesOf "Pipe call failed")
  | .ok (readEnd, writeEnd) =>
    let stage := fun (fd standard : Nat) (act : Interp Nat) => inChild engine do
      let _ ← (Call.duplicateTo fd standard : Call (Except Errno Unit))
      (Call.close readEnd : Call Unit)
      (Call.close writeEnd : Call Unit)
      act
    -- The writer runs to its end first: the pipe holds whatever it writes.
    let _ ← stage writeEnd 1 first
    let code ← stage readEnd 0 second
    (Call.close readEnd : Call Unit)
    (Call.close writeEnd : Call Unit)
    return code

/-- Runs an action in the background, where nothing is read. It has ended when this returns, but its
exit code is for those who ask. -/
def inBackground (engine : Engine) (act : Interp Nat) : Interp Unit := do
  let code ← inChild engine do
    let _ ← redirectToFile 0 .input (bytesOf "/dev/null")
    act
  modify fun s => { s with jobs := Table.put (s.pid + s.jobs.length + 1) code s.jobs }

end LineShell.Userland.Interpreter
