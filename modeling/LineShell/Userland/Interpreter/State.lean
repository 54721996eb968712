import LineShell.Userland.Script.Syntax
/-!
# The state of the command interpreter

What the interpreter remembers between commands: parameters, variables, functions, flags and traps.
A computation of the interpreter may end early by a `Jump`, which keeps the state, or by the end of
the whole process.

Variables live in the state; the programs that are started see those that are exported, in the order
of `environmentOf`.
-/

namespace LineShell.Userland.Interpreter

open LineShell.Userland.Script

/-- How the interpreter runs its commands. -/
structure Flags where
  /-- A command that fails ends the interpreter, unless its failure is asked for. -/
  stopsOnFailure : Bool := false
  /-- A parameter without a value is an error. -/
  needsValues : Bool := false
  /-- Commands are shown before they run. -/
  shows : Bool := false
  /-- Commands are read but do not run. -/
  onlyReads : Bool := false
  /-- Patterns stand for themselves. -/
  keepsPatterns : Bool := false
  /-- Every variable that is assigned to is exported. -/
  exportsAll : Bool := false
  /-- An output redirection does not overwrite a file. -/
  protectsFiles : Bool := false
  deriving DecidableEq, Repr

/-- The letters of the flags that are set. -/
def Flags.letters (f : Flags) : Bytes :=
  [(f.needsValues, 'u'), (f.exportsAll, 'a'), (f.protectsFiles, 'C'), (f.shows, 'x'),
    (f.onlyReads, 'n'), (f.keepsPatterns, 'f'), (f.stopsOnFailure, 'e')].filterMap
      (fun e => if e.1 then some (byte e.2) else none)

/-- Whether a flag is set. -/
def Flags.has (f : Flags) (letter : Char) : Bool := f.letters.contains (byte letter)

/-- A variable. It may be known without having a value. -/
structure Variable where
  value : Option Bytes
  exported : Bool
  /-- Whether it keeps its value for ever. -/
  constant : Bool
  deriving DecidableEq, Repr

/-- What ends a computation before its last step. -/
inductive Jump where
  /-- The interpreter ends. -/
  | leave (code : Nat)
  /-- A command was refused, which ends the interpreter unless something cares for it. -/
  | refused
  | breakLoops (levels : Nat)
  | continueLoops (levels : Nat)
  | leaveFunction (code : Nat)
  deriving DecidableEq, Repr

/-- What the interpreter remembers. -/
structure State where
  /-- The name of the script, which begins its messages. -/
  scriptName : Bytes
  positional : List Bytes
  last : Nat
  /-- The exit code of the last substitution in the present command. -/
  substituted : Nat
  /-- The process number of the interpreter. -/
  pid : Nat
  parent : Nat
  line : Nat
  /-- The builtin that runs, which stands in messages. -/
  title : Option Bytes
  bindings : Table Bytes Variable
  functions : Table Bytes Command
  /-- Whether a function runs. -/
  inFunction : Bool
  /-- What the variables were that the running function has made its own. -/
  shadowed : List (Bytes × Option Variable)
  /-- How many loops are around the present command. -/
  loops : Nat
  /-- The working directory as it was walked to. -/
  logical : Bytes
  flags : Flags
  /-- What is done on signals; number 0 is the end of the interpreter. -/
  traps : Table Nat Bytes
  /-- Whether its action on an interrupt cannot be changed. -/
  locked : Bool
  /-- Signals that came and were not dealt with. -/
  pending : List Nat
  /-- How the commands in the background ended. -/
  jobs : Table Nat Nat
  /-- How far `getopts` has gone into its present word. -/
  optionOffset : Nat

/-- A computation of the interpreter. -/
abbrev Interp := ExceptT Jump (StateT State Run)

/-- A program as the interpreter starts it: in the present context, to its end. -/
abbrev Start := Image → Call Status

/-- The exit code for a status. -/
def codeOfStatus : Status → Nat
  | .exited code => code
  | .killed signal => 128 + signal

/-- The context of the process. -/
def context : Interp Context := (get : Call Context)

/-- Sets the context of the process. -/
def setContext (c : Context) : Interp Unit := (set c : Call Unit)

/-- A number in decimal. -/
def decimal (n : Nat) : Bytes := (Text.ofNat n).bytes

/-- A message with the name of the script, the present line and the builtin that runs. -/
def say (message : Bytes) : Interp Unit := do
  let s ← get
  let title := (s.title.map (· ++ bytesOf ": ")).getD []
  (err (s.scriptName ++ bytesOf ": " ++ decimal s.line ++ bytesOf ": " ++ title ++ message ++
    [10]) : Run Unit)

/-- Refuses a command with a message. -/
def refuse {α : Type} (message : Bytes) : Interp α := do
  say message
  throw .refused

/-! ### Variables -/

/-- The bytes that part fields when nothing else is said. -/
def standardSeparators : Bytes := [32, 9, 10]

/-- The variables that are there from the beginning. -/
def standardVariables : Table Bytes Variable :=
  ([("PATH", bytesOf "/usr/local/sbin:/usr/local/bin:/usr/sbin:/usr/bin:/sbin:/bin"),
    ("IFS", standardSeparators), ("OPTIND", bytesOf "1"), ("PS1", bytesOf "$ "),
    ("PS2", bytesOf "> "), ("PS4", bytesOf "+ ")] : List (String × Bytes)).map
      (fun e => (bytesOf e.1, ⟨some e.2, false, false⟩))

/-- The variables with those of an environment, which are exported. Fields are parted in the
standard way at the beginning, whatever the environment says, and names that no script could write
are left out. -/
def variablesOf (environment : Environment) : Table Bytes Variable :=
  let fixed := [bytesOf "IFS", bytesOf "OPTIND"]
  environment.foldl (fun bindings e =>
    let name := e.1.bytes
    if !isName name then bindings
    else if fixed.contains name then
      bindings.map (fun v => if v.1 = name then (v.1, { v.2 with exported := true }) else v)
    else Table.put name ⟨some e.2, true, false⟩ bindings) standardVariables

/-- Variables are kept in this many groups. -/
def groupCount : Nat := 39

/-- The group of a variable. -/
def groupOf (name : Bytes) : Nat :=
  (16 * (name.head?.getD 0).toNat + (name.map UInt8.toNat).foldl Nat.add 0) % groupCount

/-- What programs see of the variables: those that are exported and have values, one group after the
other. -/
def environmentOf (bindings : Table Bytes Variable) : Environment :=
  (List.range groupCount).flatMap (fun group =>
    bindings.filterMap (fun e =>
      if groupOf e.1 = group && e.2.exported then e.2.value.map (fun v => (Bytes.text e.1, v))
      else none))

/-- The value of a variable. -/
def value? (name : Bytes) : Interp (Option Bytes) := do
  let s ← get
  return (Table.get? name s.bindings).bind Variable.value

/-- Sets a variable with a function that gets what it was. -/
def changeVariable (name : Bytes) (f : Variable → Variable) : Interp Unit :=
  modify fun s =>
    let old := (Table.get? name s.bindings).getD ⟨none, false, false⟩
    { s with bindings := Table.put name (f old) s.bindings }

/-- Whether a variable keeps its value for ever. -/
def isConstant (name : Bytes) : Interp Bool := do
  return (Table.get? name (← get).bindings).any Variable.constant

/-- Gives a variable a value. -/
def assign (name value : Bytes) : Interp Unit := do
  if ← isConstant name then refuse (name ++ bytesOf ": is read only")
  else
    let exportsAll := (← get).flags.exportsAll
    changeVariable name fun v => { v with
      value := some value
      exported := v.exported || exportsAll }
    if name = bytesOf "OPTIND" then modify fun s => { s with optionOffset := 0 }

/-- Takes a variable away. -/
def unsetVariable (name : Bytes) : Interp Unit := do
  if ← isConstant name then refuse (name ++ bytesOf ": is read only")
  else modify fun s => { s with bindings := Table.remove name s.bindings }

/-- The bytes that part fields. -/
def separators : Interp Bytes := do
  return (← value? (bytesOf "IFS")).getD standardSeparators

end LineShell.Userland.Interpreter
