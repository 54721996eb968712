import LineShell.Userland.Interpreter.Builtin
import LineShell.Userland.Interpreter.Child
/-!
# Running commands

`run` runs a command and returns its exit code. With the flag that ends the interpreter on failure a
command that fails is the end, unless its failure is asked for (`afterFailure`).
-/

namespace LineShell.Userland.Interpreter

open LineShell.Userland.Script

/-! ### Simple commands -/

/-- Shows a command that is about to run, if commands are shown. -/
def showCommand (assignments : List (Bytes × Bytes)) (words : List Bytes) : Interp Unit := do
  if (← get).flags.shows then
    let shown := assignments.map (fun a => a.1 ++ byte '=' :: a.2) ++ words
    let title := (← value? (bytesOf "PS4")).getD []
    (err (title ++ Bytes.join [byte ' '] shown ++ [10]) : Run Unit)

/-- Whether the words behind a name may be assignments, which are not parted into fields. -/
def takesAssignments (name : Bytes) : Bool :=
  ["export", "readonly", "local", "alias"].any (fun w => bytesOf w == name)

/-- The fields of the words of a command. -/
def commandFields (substitute : Substitute) : List Word → Interp (List Bytes)
  | [] => return []
  | w :: rest => do
    match ← fieldsOfWord substitute w with
    | [] => commandFields substitute rest
    | name :: more =>
      if takesAssignments name then
        let args ← rest.mapM (fun w => do
          match assignment? w with
          | some (variableName, value) =>
            return [variableName ++ byte '=' :: (← assignedWord substitute value)]
          | none => fieldsOfWord substitute w)
        return name :: more ++ args.flatten
      else return name :: more ++ (← fieldsOfWords substitute rest)

/-- Carries out assignments one after the other; with `exports` programs see them. Returns what was
assigned. -/
def assignAll (substitute : Substitute) (exports : Bool) :
    List (Bytes × Word) → Interp (List (Bytes × Bytes))
  | [] => return []
  | (name, word) :: rest => do
    let value ← assignedWord substitute word
    assign name value
    if exports then changeVariable name fun v => { v with exported := true }
    return (name, value) :: (← assignAll substitute exports rest)

/-- Makes variables what they were before. -/
def restoreVariables (before : Table Bytes Variable) (names : List Bytes) : Interp Unit :=
  modify fun s => { s with bindings := names.foldl (fun t name =>
    match Table.get? name before with
    | some v => Table.put name v t
    | none => Table.remove name t) s.bindings }

/-- Runs a function with positional parameters of its own. Its own variables end with it. -/
def runFunction (engine : Engine) (asked : Bool) (body : Command) (args : List Bytes) :
    Interp Nat := do
  let s ← get
  set { s with positional := args, inFunction := true, shadowed := [], loops := 0 }
  let result ← ((tryCatch (do return .ok (← engine.run asked body)) (fun jump =>
    match jump with
    | .leaveFunction code => return .ok code
    | other => return .error other)) : Interp (Except Jump Nat))
  modify fun t => { t with
    positional := s.positional
    inFunction := s.inFunction
    loops := s.loops
    shadowed := s.shadowed
    bindings := t.shadowed.foldl (fun bindings e =>
      match e.2 with
      | some v => Table.put e.1 v bindings
      | none => Table.remove e.1 bindings) t.bindings }
  match result with
  | .ok code => return code
  | .error jump => throw jump

/-- Runs an action under the title of a builtin. -/
def titled (title : Bytes) (act : Interp Nat) : Interp Nat := do
  let before := (← get).title
  modify fun s => { s with title := some title }
  let code ← act
  modify fun s => { s with title := before }
  return code

/-- Runs an action of a builtin; output that cannot be written is no end of the interpreter. -/
def keepingOutput (name : Bytes) (act : Interp Nat) : Interp Nat :=
  ExceptT.mk (StateT.mk fun s =>
    tryCatch (act.run.run s) (fun stop => match stop with
      | .unwritten _ =>
        (titled name (do say (name ++ bytesOf ": I/O error"); return 1)).run.run s
      | .ended status => halt status))

/-- Runs the script in a file in place of a command. -/
def runDotted (engine : Engine) (args : List Bytes) : Interp Nat := do
  match args with
  | [] => return 0
  | file :: _ =>
    let found ← if file.contains Path.slash then pure (some file)
      else do
        let (t, start) ← (here : Run _)
        let directories := Bytes.pieces 0x3a ((← value? (bytesOf "PATH")).getD [])
        pure ((directories.map (fun d => Path.join d file)).find? (fun path =>
          (t.find true start path).toOption.any (fun i => !t.isDirectory i)))
    match found with
    | none => refuse (file ++ bytesOf ": not found")
    | some path =>
      match ← (readOperand path : Run _) with
      | .stream s =>
        titled path (tryCatch (runText engine s.bytes) fun jump =>
          match jump with
          | .leaveFunction code => return code
          | other => throw other)
      | .notOpened e => refuse (openFailure false path e)
      | .notRead _ => return 0

/-- Runs what a name stands for, not counting functions: a builtin or a program. -/
def runNamed (engine : Engine) (name : Bytes) (args : List Bytes) : Interp Nat := do
  match String.ofList (Bytes.text name) with
  | "eval" => titled name (runText engine (Bytes.join [byte ' '] args))
  | "." => titled name (runDotted engine args)
  | _ =>
    match plainBuiltin? name with
    | some builtin => keepingOutput name (titled name (builtin args))
    | none => runProgram engine (name :: args)

/-- Runs a command in spite of functions of its name, or tells what the name stands for. -/
def runCommand (engine : Engine) (args : List Bytes) : Interp Nat := do
  let (letters, args) ← optionLetters "pvV" args
  match args, letters.getLast?.map (fun l => Char.ofNat l.toNat) with
  | [], _ => return 0
  | name :: _, some 'v' => identify name
  | name :: _, some 'V' => describe name
  | name :: args, _ =>
    -- A refusal is no end here, not even that of a special builtin.
    tryCatch (runNamed engine name args) fun jump =>
      match jump with
      | .refused => return 2
      | other => throw other

/-- Runs a command whose words are expanded. -/
def runWords (engine : Engine) (asked : Bool) (name : Bytes) (args : List Bytes) :
    Interp Nat := do
  if specialNames.contains name then runNamed engine name args
  else match Table.get? name (← get).functions with
    | some body => runFunction engine asked body args
    | none =>
      let before := (← get).title
      tryCatch (if name = bytesOf "command" then
          titled name (runCommand engine args)
        else runNamed engine name args) fun jump => do
          modify fun s => { s with title := before }
          match jump with
          | .refused => return 2
          | other => throw other

/-- Becomes a program, or makes redirections stay if there is none. -/
def runExec (engine : Engine) (rs : List Redirection) (args : List Bytes) : Interp Nat := do
  if ← redirect (substitution engine) rs then
    if args.isEmpty then return 0
    else titled (bytesOf "exec") do
      match ← become engine args with
      | .exited 126 => throw (.leave 126)
      | .exited 127 => throw (.leave 127)
      | status => (halt status : Run Nat)
  else throw .refused

/-- Runs a simple command. -/
def runSimple (engine : Engine) (asked : Bool) (words : List Word) (rs : List Redirection) :
    Interp Nat := do
  let substitute := substitution engine
  modify fun s => { s with substituted := 0 }
  let assignments := (words.map assignment?).takeWhile Option.isSome |>.filterMap id
  let fields ← commandFields substitute (words.drop assignments.length)
  match fields with
  | [] =>
    withRedirections substitute rs do
      showCommand (← assignAll substitute false assignments) []
      return (← get).substituted
  | name :: args =>
    let isSpecial := specialNames.contains name
    let before := (← get).bindings
    let exports := !isSpecial || (name = bytesOf "exec" && !args.isEmpty)
    -- Commands are shown where the messages of the interpreter go.
    showCommand (← assignAll substitute exports assignments) fields
    let act := runWords engine asked name args
    if name = bytesOf "exec" then runExec engine rs args
    else if isSpecial then
      let numbers := (← context).self.descriptors
      if !(← redirect substitute rs) then throw .refused
      let code ← act
      putBackNumbers numbers rs
      return code
    else
      let code ← withRedirections substitute rs act
      restoreVariables before (assignments.map Prod.fst)
      return code

/-! ### All commands -/

/-- The end of a command that failed, unless its failure is asked for, where failures are the end of
the interpreter. -/
def afterFailure (asked : Bool) (code : Nat) : Interp Unit := do
  if !asked && code != 0 && (← get).flags.stopsOnFailure then throw (.leave code)

/-- Does what is to be done about the signals that came. -/
def handleSignals (engine : Engine) : Interp Unit := do
  let s ← get
  set { s with pending := [] }
  s.pending.forM fun signal => do
    match Table.get? signal s.traps with
    | some action => do
      let last := (← get).last
      let _ ← runText engine action
      modify fun s => { s with last := last }
    | none => return ()

/-- Remembers the exit code of a command and does what follows from it. -/
def settleCode (engine : Engine) (asked : Bool) (code : Nat) : Interp Nat := do
  modify fun s => { s with last := code }
  if !(← get).pending.isEmpty then handleSignals engine
  afterFailure asked code
  return code

/-- What a round of a loop comes to. -/
inductive Round where
  | again (code : Nat)
  | over (code : Nat)

/-- Runs a round of a loop that has `depth` loops around it. -/
def oneRound (depth : Nat) (act : Interp Round) : Interp Round := do
  modify fun s => { s with loops := depth + 1 }
  let outside := modify fun s => { s with loops := depth }
  tryCatch (do
    let round ← act
    outside
    return round) fun jump => do
      outside
      match jump with
      | .breakLoops levels =>
        if levels ≤ 1 then return .over 0 else throw (.breakLoops (levels - 1))
      | .continueLoops levels =>
        if levels ≤ 1 then return .again 0 else throw (.continueLoops (levels - 1))
      | other => throw other

/-- Runs rounds until one is the last; each gets the exit code of the one before. -/
def rounds (act : Nat → Interp Round) : Nat → Nat → Interp Nat
  | 0, code => return code
  | fuel + 1, code => do
    match ← act code with
    | .over code => return code
    | .again code => rounds act fuel code

/-- At most so many rounds of one loop run. -/
def roundLimit : Nat := 100000

/-- Runs a round for every field, until one is the last. -/
def roundsOver (act : Bytes → Interp Round) : Nat → List Bytes → Interp Nat
  | code, [] => return code
  | _, field :: rest => do
    match ← act field with
    | .over code => return code
    | .again code => roundsOver act code rest

/-- The command of the first arm with a pattern that describes a word. -/
def firstArm? (substitute : Substitute) (word : Bytes) : List Arm → Interp (Option Command)
  | [] => return none
  | arm :: rest => do
    let described ← arm.patterns.anyM (fun w => do
      return (← patternOf substitute w).describes word)
    if described then return some arm.body else firstArm? substitute word rest

/-- Runs a command. Its failure may be asked for by what stands around it: by a condition, a
negation, or a command joined behind it. The fuel bounds the depth of commands. -/
def run (start : Start) : Nat → Bool → Command → Interp Nat
  | 0, _, _ => return 1
  | fuel + 1, asked, c => do
    let engine : Engine := ⟨start, run start fuel⟩
    let substitute := substitution engine
    let enter := fun (line : Nat) => modify fun s => { s with line := line }
    if (← get).flags.onlyReads then return (← get).last
    match c with
    | .nothing => return (← get).last
    | .simple line words rs =>
      enter line
      settleCode engine asked (← runSimple engine asked words rs)
    | .pipeline first second =>
      let code ← piped engine (run start fuel asked first) (run start fuel asked second)
      settleCode engine asked code
    | .negated c =>
      let code ← run start fuel true c
      settleCode engine true (if code = 0 then 1 else 0)
    | .both first second =>
      let code ← run start fuel true first
      if code = 0 then run start fuel asked second else return code
    | .either first second =>
      let code ← run start fuel true first
      if code = 0 then return 0 else run start fuel asked second
    | .sequence first second =>
      let _ ← run start fuel asked first
      run start fuel asked second
    | .background c =>
      inBackground engine (run start fuel asked c)
      settleCode engine true 0
    | .subshell line body rs =>
      enter line
      let code ← withRedirections substitute rs (inChild engine (run start fuel asked body))
      settleCode engine asked code
    | .group body rs => withRedirections substitute rs (run start fuel asked body)
    | .branch condition yes no rs =>
      withRedirections substitute rs do
        let code ← run start fuel true condition
        if code = 0 then run start fuel asked yes
        -- No branch taken is a success.
        else
          modify fun s => { s with last := 0 }
          run start fuel asked no
    | .loop negative condition body rs =>
      withRedirections substitute rs do
        let depth := (← get).loops
        let code ← rounds (fun before => oneRound depth do
          let code ← run start fuel true condition
          if (code = 0) = (negative = false) then
            return .again (← run start fuel asked body)
          else return .over before) roundLimit 0
        settleCode engine true code
    | .forEach line name words body rs =>
      enter line
      withRedirections substitute rs do
        let fields ← fieldsOfWords substitute words
        let depth := (← get).loops
        let code ← roundsOver (fun field => oneRound depth do
          assign name field
          return .again (← run start fuel asked body)) 0 fields
        settleCode engine true code
    | .choice line word arms rs =>
      enter line
      withRedirections substitute rs do
        let value ← wholeWord substitute word
        match ← firstArm? substitute value arms with
        | none | some .nothing => settleCode engine true 0
        | some body => run start fuel asked body
    | .function name body =>
      modify fun s => { s with functions := Table.put name body s.functions }
      settleCode engine true 0

end LineShell.Userland.Interpreter
