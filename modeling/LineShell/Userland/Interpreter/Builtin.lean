import LineShell.Userland.Condition
import LineShell.Userland.Interpreter.Variables
import LineShell.Userland.Modes
import LineShell.Userland.Script.Reader
/-!
# Builtins

The commands that the interpreter carries out itself and that run no other commands. `plainBuiltin?`
finds them by name; those that run code are where code is run.
-/

namespace LineShell.Userland.Interpreter

open LineShell.Userland.Script

/-! ### Directories and masks -/

/-- A path as it was walked to, with dots resolved by name. -/
def normalise (path : Bytes) : Bytes :=
  let kept := (Path.names path).foldl (fun (acc : List Bytes) name =>
    if name = Path.dot then acc
    else if name = Path.dots then acc.dropLast
    else acc ++ [name]) []
  Path.slash :: Bytes.join [Path.slash] kept

/-- Publishes a directory in a variable. -/
def publish (name : String) (directory : Bytes) : Interp Unit := do
  assign (bytesOf name) directory
  changeVariable (bytesOf name) fun v => { v with exported := true }

/-- Moves to a directory. -/
def changeDirectory (words : List Bytes) : Interp Nat := do
  let (letters, words) ← optionLetters "LP" words
  let goesBack := words.head? = some [0x2d]
  let wanted ← match words with
    | [] => value? (bytesOf "HOME")
    | word :: _ => if goesBack then value? (bytesOf "OLDPWD") else pure (some word)
  let target := wanted.getD []
  let s ← get
  let physical := letters.getLast? = some (byte 'P') || s.logical.isEmpty
  let path := if physical then (if target.isEmpty then Path.dot else target)
    else normalise (Path.join s.logical target)
  match ← (Call.changeDirectory path : Call (Except Errno Unit)) with
  | .error _ => refuse (bytesOf "can't cd to " ++ target)
  | .ok () =>
    let reached ← if physical then do
        pure (((← (Call.workingDirectory : Call (Except Errno Bytes))).toOption).getD [])
      else pure path
    modify fun s => { s with logical := reached }
    publish "OLDPWD" s.logical
    publish "PWD" reached
    if goesBack then (outLines [reached] : Run Unit)
    return 0

/-- Shows the directory. -/
def showDirectory (words : List Bytes) : Interp Nat := do
  let (letters, _) ← optionLetters "LP" words
  if letters.getLast? = some (byte 'P') then
    let physical ← (Call.workingDirectory : Call (Except Errno Bytes))
    (outLines [(physical.toOption).getD []] : Run Unit)
  else (outLines [(← get).logical] : Run Unit)
  return 0

/-- The letters of three bits. -/
def rightLetters (bits : Nat) : Bytes :=
  [(4, 'r'), (2, 'w'), (1, 'x')].filterMap (fun e =>
    if bits / e.1 % 2 = 1 then some (byte e.2) else none)

/-- Shows or sets the mask of the process. -/
def setMask (words : List Bytes) : Interp Nat := do
  let (letters, words) ← optionLetters "S" words
  let c ← context
  let granted := Permissions.masked 0o777 c.self.mask
  let become := fun (mask : Nat) => do
    setContext { c with self := { c.self with mask := mask } }
    return 0
  match words with
  | [] =>
    let shown := if letters.isEmpty then octalText c.self.mask
      else bytesOf "u=" ++ rightLetters (granted / 64) ++ bytesOf ",g=" ++
        rightLetters (granted / 8) ++ bytesOf ",o=" ++ rightLetters granted
    (outLines [shown] : Run Unit)
    return 0
  | word :: _ =>
    if word.head?.any isDigit then
      if word.all isOctal then become (numeral 8 word &&& 0o777)
      else refuse (bytesOf "Illegal number: " ++ word)
    else match Mode.parse? word with
      | some mode => become (Permissions.masked 0o777 (mode.apply false 0 granted))
      | none => refuse (bytesOf "Illegal mode: " ++ word)

/-- Shows a limit of the process, or sets how many numbers it may open. -/
def setLimit (words : List Bytes) : Interp Nat := do
  let (letters, words) ← optionLetters "HSatfdsmcnpvlwr" words
  let c ← context
  match letters.getLast?.map (fun l => Char.ofNat l.toNat), words with
  | some 'n', [] => (outLines [decimal c.self.limit] : Run Unit)
  | some 'n', word :: _ =>
    if let some n := natural? word then
      setContext { c with self := { c.self with limit := n } }
  | some 'c', [] => (outLines [bytesOf "0"] : Run Unit)
  | _, [] => (outLines [bytesOf "unlimited"] : Run Unit)
  | _, _ => pure ()
  return 0

/-! ### Text and conditions -/

/-- Writes words. -/
def echoWords (words : List Bytes) : Interp Nat := do
  let (newline, words) := match words with
    | first :: rest => if first = bytesOf "-n" then (false, rest) else (true, words)
    | [] => (true, [])
  (out (echoText newline true words) : Run Unit)
  return 0

/-- How the interpreter words a fault of a format. -/
def formatMessage : FormatFault → Bytes
  | .noNumber a => a ++ bytesOf ": expected numeric value"
  | .trailing a => a ++ bytesOf ": not completely converted"
  | .tooLarge a => a ++ bytesOf ": Numerical result out of range"
  | .directive written => written ++ bytesOf ": invalid directive"
  | .noLetter => bytesOf "missing format character"

/-- Writes arguments in a format. Faults are told first; the text is written at the end. -/
def formatWords (format : Bytes) (args : List Bytes) : Interp Nat := do
  let f := formatAll .builtin format (args.length + 1) args
  let faults := faultsOf f.pieces
  faults.forM (fun fault => say (formatMessage fault))
  (out (textOf f.pieces) : Run Unit)
  return if faults.isEmpty then 0
    else if faults.any (fun fault => match fault with
      | .directive _ | .noLetter => true
      | _ => false) then 2
    else 1

/-- Writes arguments in a format, which the first of them is. -/
def formatArguments (words : List Bytes) : Interp Nat := do
  match ← optionLetters "" words with
  | (_, []) => refuse (bytesOf "usage: printf format [arg ...]")
  | (_, format :: args) => formatWords format args

/-- How the interpreter words a fault of a condition that starts with a word. -/
def conditionMessage (first : Bytes) : ConditionFault → Bytes
  | .missing word =>
    if Condition.isBinary word then word ++ bytesOf ": argument expected"
    else first ++ bytesOf ": unexpected operator"
  | .noUnary _ | .noBinary _ | .extra _ => first ++ bytesOf ": unexpected operator"
  | .unclosed _ => bytesOf "closing paren expected"
  | .noInteger word => bytesOf "Illegal number: " ++ word

/-- Evaluates a condition. -/
def testCondition (name : Bytes) (args : List Bytes) : Interp Nat := do
  match conditionWords? name args with
  | none => refuse (bytesOf "missing ]")
  | some words =>
    match ← (conditionValue false words : Run _) with
    | .ok value => return codeOf value
    | .error fault => refuse (conditionMessage (words.head?.getD []) fault)

/-! ### Ends -/

/-- The number that a word writes, which must be one. -/
def requireNumber (word : Bytes) : Interp Nat := do
  match natural? word with
  | some n => return n
  | none => refuse (bytesOf "Illegal number: " ++ word)

/-- The exit code that words give, or the last one. -/
def codeGiven (words : List Bytes) : Interp Nat := do
  match words with
  | [] => return (← get).last
  | word :: _ => return (← requireNumber word)

/-- Leaves loops or goes on with them, as far as there are loops around. -/
def leaveLoops (jump : Nat → Jump) (words : List Bytes) : Interp Nat := do
  let levels ← match words with
    | [] => pure 1
    | word :: _ => do
      let n ← requireNumber word
      if n = 0 then refuse (bytesOf "Illegal number: " ++ word) else pure n
  let levels := min levels (← get).loops
  if levels = 0 then return 0 else throw (jump levels)

/-- The exit code of a command in the background; waiting for all of them succeeds. -/
def waitFor (words : List Bytes) : Interp Nat := do
  let jobs := (← get).jobs
  match words.getLast? with
  | none => return 0
  | some word =>
    match natural? word with
    | some pid => return (Table.get? pid jobs).getD 127
    | none => refuse (bytesOf "No such job: " ++ word)

/-! ### What a name stands for -/

/-- The builtins, other than special ones. -/
def regularNames : List Bytes :=
  (["bg", "cd", "chdir", "command", "echo", "false", "fg", "getopts", "hash", "jobs", "kill",
    "printf", "pwd", "read", "true", "type", "ulimit", "umask", "unalias", "wait", "alias", "test",
    "["] : List String).map (fun w => bytesOf w)

/-- The path of the file that a name starts, searching the directories of `PATH`. -/
def programPath? (name : Bytes) : Interp (Option Bytes) := do
  if name.contains Path.slash then
    return if (← (nodeAt true name : Run _)).toOption.isSome then some name else none
  else
    let c ← context
    let directories := Bytes.pieces 0x3a ((← value? (bytesOf "PATH")).getD [])
    return (directories.map (fun d => Path.join d name)).find?
      (fun path => (Exec.executable c path).toOption.isSome)

/-- What a name stands for. -/
inductive Meaning where
  | keyword
  | function
  | special
  | regular
  | program (path : Bytes)

/-- What a name stands for, if anything. -/
def meaning? (name : Bytes) : Interp (Option Meaning) := do
  if keywords.contains name then return some .keyword
  else if (Table.get? name (← get).functions).isSome then return some .function
  else if specialNames.contains name then return some .special
  else if regularNames.contains name then return some .regular
  else return (← programPath? name).map .program

/-- Tells in words what a name stands for. -/
def describe (name : Bytes) : Interp Nat := do
  let tell := fun (words : Bytes) => do
    (outLines [name ++ words] : Run Unit)
    return 0
  match ← meaning? name with
  | some .keyword => tell (bytesOf " is a shell keyword")
  | some .function => tell (bytesOf " is a shell function")
  | some .special => tell (bytesOf " is a special shell builtin")
  | some .regular => tell (bytesOf " is a shell builtin")
  | some (.program path) => tell (bytesOf " is " ++ path)
  | none => do
    let _ ← tell (bytesOf ": not found")
    return 127

/-- Tells in one word what a name stands for. -/
def identify (name : Bytes) : Interp Nat := do
  match ← meaning? name with
  | some (.program path) => (outLines [path] : Run Unit); return 0
  | some _ => (outLines [name] : Run Unit); return 0
  | none => return 127

/-- Applies an action to words; the code is that of the last failure. -/
def forWords (act : Bytes → Interp Nat) (words : List Bytes) : Interp Nat :=
  words.foldlM (fun code word => do
    let next ← act word
    return if next = 0 then code else next) 0

/-- A name that has to stand for a program or a builtin. -/
def requireMeaning (name : Bytes) : Interp Nat := do
  match ← meaning? name with
  | some _ => return 0
  | none =>
    say (name ++ bytesOf ": not found")
    return 1

/-- The builtin of a name, if it is one that runs no commands. -/
def plainBuiltin? (name : Bytes) : Option (List Bytes → Interp Nat) :=
  match String.ofList (Bytes.text name) with
  | ":" | "true" | "alias" => some (fun _ => return 0)
  | "false" => some (fun _ => return 1)
  | "echo" => some echoWords
  | "printf" => some formatArguments
  | "test" | "[" => some (testCondition name)
  | "pwd" => some showDirectory
  | "cd" | "chdir" => some changeDirectory
  | "umask" => some setMask
  | "ulimit" => some setLimit
  | "set" => some setFlags
  | "export" => some exportVariables
  | "readonly" => some fixVariables
  | "local" => some shadowVariables
  | "unset" => some unsetNames
  | "shift" => some shiftPositional
  | "read" => some readVariables
  | "getopts" => some getOption
  | "kill" => some kill
  | "trap" => some trap
  | "wait" => some waitFor
  | "jobs" => some (fun _ => return 0)
  | "bg" | "fg" => some (fun _ => refuse (bytesOf "No current job"))
  | "hash" => some (fun words => do
    let (_, names) ← optionLetters "rv" words
    forWords requireMeaning names)
  | "unalias" => some (forWords (fun word => do
    (err (bytesOf "unalias: " ++ word ++ bytesOf " not found\n") : Run Unit)
    return 1))
  | "type" => some (forWords describe)
  | "times" => some (fun _ => do
    (out (bytesOf "0m0.000000s 0m0.000000s\n0m0.000000s 0m0.000000s\n") : Run Unit)
    return 0)
  | "exit" => some (fun words => do throw (.leave (← codeGiven words)))
  | "return" => some (fun words => do throw (.leaveFunction (← codeGiven words)))
  | "break" => some (leaveLoops .breakLoops)
  | "continue" => some (leaveLoops .continueLoops)
  | _ => none

end LineShell.Userland.Interpreter
