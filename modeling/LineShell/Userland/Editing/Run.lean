import LineShell.Userland.Editing.Replacement
import LineShell.Userland.LineSearch
/-!
# Running an editing script

The script is run once for every line: the line is read into the space, the commands that select it
change the space, and it is written at the end. What commands want to be put in behind a line waits
until the next line is read.

Lines come from the operands one behind another, or from each on its own. A script that quits leaves
the position of its input right behind the last line read.
-/

namespace LineShell.Userland.Editing

/-- How far a range of lines has come. -/
inductive RangeState where
  | idle
  /-- Inside; ends at the line given or where its address says. -/
  | active (stop : Option Nat)
  | closed
  deriving DecidableEq, Repr

/-- How a script is run. -/
structure Manner where
  /-- Whether lines are written by commands only. -/
  quiet : Bool
  /-- Whether each operand has lines of its own. -/
  separate : Bool
  /-- Whether operands are replaced by what is written, and what is put behind the name of a copy. -/
  inPlace : Option Bytes
  ending : UInt8
  width : Nat
  /-- How many parts the script has. -/
  parts : Nat
  /-- How far the ranges of the commands have come at the beginning. -/
  ranges : Array RangeState
  deriving Repr

/-- A text, and whether it ends its line. -/
structure Space where
  text : Bytes
  ends : Bool

/-- What waits to be put in. -/
inductive Waiting where
  | text (t : Bytes)
  | file (path : Bytes)

/-- An editor at work. -/
structure Editor where
  space : Space
  held : Space
  line : Nat
  replaced : Bool
  ranges : Array RangeState
  waiting : List Waiting
  lastSample : Option Sample
  /-- Operands not opened yet. -/
  operands : List Bytes
  /-- Lines not read yet. -/
  pending : List Bytes
  /-- The operand that lines come from. -/
  current : Bytes
  /-- Whether an operand could not be opened. -/
  failed : Bool
  /-- How much of the input has been read, if it was opened. -/
  taken : Option Nat
  /-- Parts of the output, the last first, and whether it lacks the end of a line. -/
  output : List Bytes
  lacksEnd : Bool
  /-- Files written to: the path, the number, and whether it lacks the end of a line. -/
  files : List (Bytes × Nat × Bool)
  /-- Lines left of files that are read by lines. -/
  readers : List (Bytes × List Bytes)

/-- A step of editing. -/
abbrev Edit := StateT Editor Run

namespace Edit

/-- Does what a program does. -/
def doing {α : Type} (act : Run α) : Edit α := StateT.lift act

/-- The name of the program in its messages. -/
def programName : Bytes := bytesOf "sed"

/-- Writes everything that was put out. -/
def flush : Edit Unit := do
  let e ← get
  set { e with output := [] }
  doing (out e.output.reverse.flatten)

/-- How much is read at a time from what is no file. -/
def inputBlock : Nat := 4096

/-- Leaves the input behind what has been read of it. -/
def leaveInput : Edit Unit := do
  match (← get).taken with
  | none => return
  | some taken =>
    match ← doing (fileBehind 0) with
    | some (_, start) => doing (moveTo 0 (start + taken))
    | none =>
      match ← doing (Call.peek 0 : Call _) with
      | .ok s =>
        let blocks := (taken + inputBlock - 1) / inputBlock * inputBlock
        doing (Call.skip 0 (if s.cycle.isEmpty then min blocks s.bytes.length else blocks) :
          Call Unit)
      | .error _ => return

/-- Ends the program after a message. -/
def giveUp {α : Type} (m : Manner) (message : Bytes) (code : Nat) : Edit α := do
  doing (complain programName message)
  if m.inPlace.isNone then flush
  leaveInput
  doing (exit code)

/-- Puts out bytes. -/
def put (bytes : Bytes) : Edit Unit := modify fun e => { e with output := bytes :: e.output }

/-- Ends the line that was put out last, if it has no end. -/
def endLine (m : Manner) : Edit Unit := do
  if (← get).lacksEnd then
    put [m.ending]
    modify fun e => { e with lacksEnd := false }

/-- Puts out a text and the end of its line, if it has one. -/
def putLine (m : Manner) (text : Bytes) (ends : Bool) : Edit Unit := do
  endLine m
  put (text ++ if ends then [m.ending] else [])
  modify fun e => { e with lacksEnd := !ends }

/-- Writes a line to a file of the script. The output is one of them, with an end of line of its
own. -/
def writeLine (m : Manner) (path text : Bytes) (ends : Bool) : Edit Unit := do
  match (← get).files.find? (fun f => f.1 == path) with
    | none => return
    | some (_, fd, lacks) =>
      let line := (if lacks then [m.ending] else []) ++ text ++ if ends then [m.ending] else []
      if fd = 1 && m.inPlace.isNone then put line else doing (writeTo fd line)
      modify fun e => { e with files := e.files.map (fun f =>
        if f.1 == path then (path, fd, !ends) else f) }

/-- Puts out what waits. -/
def dump (m : Manner) : Edit Unit := do
  let e ← get
  if !e.waiting.isEmpty then
    endLine m
    modify fun e => { e with waiting := [] }
    for w in e.waiting do
      match w with
      | .text t => put t
      | .file path =>
        match ← doing (readOperand (if path = bytesOf "/dev/stdin" then bytesOf "-" else path)) with
        | .stream s => put s.bytes
        | _ => return

/-! ### Lines -/

/-- Opens the next operand that has lines. -/
def openNext (m : Manner) : List Bytes → Edit Unit
  | [] => modify fun e => { e with operands := [] }
  | operand :: rest => do
    modify fun e => { e with operands := rest }
    if m.separate then
      modify fun e => { e with line := 0, ranges := m.ranges, readers := [] }
    let notRead := fun (error : Errno) =>
      giveUp m (bytesOf (if m.inPlace.isSome then "couldn't edit " else "read error on ") ++
        (if operand = bytesOf "-" then bytesOf "stdin" else operand) ++ bytesOf ": " ++
        (if m.inPlace.isSome then bytesOf "not a regular file"
        else error.description.bytes)) 4
    if operand = bytesOf "-" && m.inPlace.isNone then
      match ← doing (Call.peek 0 : Call _) with
      | .error error => notRead error
      | .ok s =>
        -- The input is read once; there is nothing behind its end.
        modify fun e => { e with
          pending := if e.taken.isSome then [] else recordsOf m.ending (searchable s)
          current := operand, taken := some (e.taken.getD 0) }
    else match ← doing (readOperand operand) with
      | .stream s =>
        modify fun e => { e with pending := recordsOf m.ending (searchable s), current := operand }
      | .notOpened error =>
        doing (complainOf programName (bytesOf "can't read " ++ operand) error)
        modify fun e => { e with failed := true }
      | .notRead error => notRead error
    if (← get).pending.isEmpty && m.inPlace.isNone then openNext m rest

/-- Whether the line read last is the last one. -/
def isLast (m : Manner) : Edit Bool := do
  if (← get).pending.isEmpty then
    if m.separate then return true
    openNext m (← get).operands
  return (← get).pending.isEmpty

/-- Stores what was put out in place of the operand it came from. -/
def storeInPlace (m : Manner) (suffix : Bytes) : Edit Unit := do
  let e ← get
  set { e with output := [], lacksEnd := false }
  let path := e.current
  if path.isEmpty then return
  let content := e.output.reverse.flatten
  let result ← doing (do
    match ← nodeAt true path with
    | .error error => return .error error
    | .ok (_, n) =>
      let place := path.take (path.length - (path.reverse.takeWhile (· != byte '/')).length)
      let name := path.drop place.length
      let copy := if suffix.contains (byte '*') then
          suffix.flatMap (fun b => if b = byte '*' then name else [b])
        else name ++ suffix
      let copy := if copy.contains (byte '/') then copy else place ++ copy
      if !suffix.isEmpty then
        let _ ← change (fun t start => t.removeFile start copy)
        let _ ← enter copy n
      match ← change (fun t start => t.removeFile start path) with
      | .error error => return .error error
      | .ok () => enter path { n with kind := .file content })
  match result with
  | .ok () => return
  | .error error =>
    giveUp m (bytesOf "cannot rename " ++ path ++ bytesOf ": " ++ error.description.bytes) 4

/-- Ends the work on the current operand. -/
def leaveOperand (m : Manner) : Edit Unit := do
  match m.inPlace with
  | none => return
  | some suffix =>
    if !(← get).current.isEmpty then storeInPlace m suffix
    modify fun e => { e with current := [] }

/-- Goes to the next operand that has lines, as long as there are operands. -/
def advance (m : Manner) : Nat → Edit Unit
  | 0 => return
  | fuel + 1 => do
    let e ← get
    if e.pending.isEmpty && !e.operands.isEmpty then
      leaveOperand m
      openNext m e.operands
      advance m fuel

/-- The next line. -/
def nextLine (m : Manner) : Edit (Option Space) := do
  dump m
  advance m ((← get).operands.length + 1)
  match (← get).pending with
  | [] => return none
  | line :: rest =>
    let ends := line.getLast? == some m.ending
    modify fun e => { e with
      pending := rest, line := e.line + 1, replaced := false
      taken := if e.current = bytesOf "-" then e.taken.map (· + line.length) else e.taken }
    return some ⟨if ends then line.dropLast else line, ends⟩

/-! ### Addresses -/

/-- The expression of a sample, which is then the one used last. -/
def resolve (m : Manner) (s : Sample) : Edit Sample := do
  match s.expression with
  | some _ =>
    modify fun e => { e with lastSample := some s }
    return s
  | none =>
    match (← get).lastSample with
    | some last => return last
    | none =>
      giveUp m (bytesOf "-e expression #" ++ (Text.ofNat m.parts).bytes ++
        bytesOf ", char 0: no previous regular expression") 1

/-- Whether the space has a part that a sample describes. -/
def matches_ (m : Manner) (s : Sample) : Edit Bool := do
  let s ← resolve m s
  let e := s.expression.getD .empty
  let text := (← get).space.text.toArray
  return (e.find? ⟨text, s.folds, s.hasLines, e.recalls⟩ (fun _ _ => true) 0).isSome

/-- Whether a selector selects the current line. -/
def selects (m : Manner) (s : Selector) : Edit Bool := do
  let line := (← get).line
  match s with
  | .line n => return line = n
  | .last => isLast m
  | .matching sample => matches_ m sample
  | .every first step =>
    return first ≤ line && (line - first) % step = 0

/-- Where a range ends that begins at a line, if the end is known by its number. -/
def knownEnd (line : Nat) : RangeEnd → Option Nat
  | .at_ (.line n) => some n
  | .at_ (.every first step) => some (first + (line - first + step - 1) / step * step)
  | .at_ _ => none
  | .after n => some (line + n)
  | .multiple n => some (if n = 0 then line else (line / n + 1) * n)

/-- Keeps how far the range of the command with a number has come. -/
def setRange (i : Nat) (s : RangeState) : Edit Unit :=
  modify fun e => { e with ranges := e.ranges.setIfInBounds i s }

/-- Whether a range that is active selects the current line. It ends there or goes on. A number as its
end does not select a line behind it. -/
def goesOn (m : Manner) (i : Nat) (stop : RangeEnd) (known : Option Nat) : Edit Bool := do
  let line := (← get).line
  let ends ← match known, stop with
    | some last, _ => pure (last ≤ line : Bool)
    | none, .at_ s => selects m s
    | none, _ => pure true
  setRange i (if ends then .closed else .active known)
  match stop with
  | .at_ (.line last) => return line ≤ last
  | _ => return true

/-- Whether a range begins at the current line. One that begins at a number may be met late, but only
once. -/
def begins (m : Manner) (i : Nat) (first : Selector) (stop : RangeEnd) (state : RangeState) :
    Edit Bool := do
  let line := (← get).line
  let met ← match first with
    | .line n => pure (n ≤ line && state != .closed)
    | first => selects m first
  if !met then return false
  else match knownEnd line stop with
    | some last =>
      setRange i (if last ≤ line then .closed else .active (some last))
      return line ≤ last || first = .line line || (match first with
        | .line _ => false
        | _ => true)
    | none =>
      let ends ← if stop = .at_ .last then isLast m else pure false
      setRange i (if ends then .closed else .active none)
      return true

/-- Whether the address of a command selects the current line. The range of the command is kept
under its number. -/
def isSelected (m : Manner) (i : Nat) (a : Address) : Edit Bool := do
  match a.stop with
  | none => selects m a.first
  | some stop =>
    match (← get).ranges[i]?.getD .idle with
    | .active known => goesOn m i stop known
    | state => begins m i a.first stop state

/-! ### Commands -/

/-- How the run of a script for one line ends. -/
inductive Ending where
  /-- The space is written and the next line read. -/
  | done
  /-- The next line is read. -/
  | deleted
  /-- The script is run again for what is left in the space. -/
  | again
  | quit (code : Nat) (silent : Bool)

/-- What follows a command. -/
inductive Step where
  | next
  | jump (target : Nat)
  | ended (e : Ending)

/-- The space up to its first line end, and what is behind it if there is one. -/
def firstLine (m : Manner) (text : Bytes) : Bytes × Option Bytes :=
  let first := text.takeWhile (· != m.ending)
  if first.length = text.length then (first, none) else (first, some (text.drop (first.length + 1)))

/-- Puts out the space unless lines are written by commands only. -/
def autoprint (m : Manner) : Edit Unit := do
  if !m.quiet then
    let s := (← get).space
    putLine m s.text s.ends

/-- Makes the space another one. -/
def setSpace (s : Space) : Edit Unit := modify fun e => { e with space := s }

/-- A space and another one behind a line end. -/
def joined (m : Manner) (a b : Space) : Space := ⟨a.text ++ m.ending :: b.text, b.ends⟩

/-- The text of a command, with the end that lines have. -/
def ended (m : Manner) (text : Bytes) : Bytes :=
  if text.isEmpty then [] else text.dropLast ++ [m.ending]

/-- Lets something wait. -/
def wait (w : Waiting) : Edit Unit := modify fun e => { e with waiting := e.waiting ++ [w] }

/-- The next line of a file that is read by lines. -/
def readerLine (m : Manner) (path : Bytes) : Edit (Option Bytes) := do
  let lines ← match (← get).readers.find? (fun r => r.1 == path) with
    | some (_, lines) => pure lines
    | none =>
      match ← doing (readOperand path) with
      | .stream s => pure (recordsOf m.ending s.bytes)
      | _ => pure []
  let others := (← get).readers.filter (fun r => r.1 != path)
  modify fun e => { e with readers := (path, lines.drop 1) :: others }
  return lines.head?

/-- Runs a substitution. -/
def substitute (m : Manner) (s : Substitution) : Edit Unit := do
  let sample ← resolve m s.sample
  let space := (← get).space
  match s.apply? (sample.expression.getD .empty) sample.folds sample.hasLines space.text with
  | none => return
  | some text =>
    modify fun e => { e with space := { space with text := text }, replaced := true }
    if s.prints then putLine m text space.ends
    match s.file with
    | some path => writeLine m path text space.ends
    | none => return

/-- Runs the command with a number, which has been selected. -/
def perform (m : Manner) (i : Nat) (c : Command) : Edit Step := do
  let e ← get
  match c.action with
  | .openBlock | .closeBlock | .label _ | .nothing => return .next
  | .jump on _ =>
    match on with
    | .always => return .jump c.target
    | .replaced =>
      set { e with replaced := false }
      return if e.replaced then .jump c.target else .next
    | .notReplaced =>
      set { e with replaced := false }
      return if e.replaced then .next else .jump c.target
  | .append text => wait (.text text); return .next
  | .insert text => endLine m; put (ended m text); return .next
  | .change text =>
    let inside := match e.ranges[i]?.getD .idle with
      | .active _ => c.address.any (fun a => a.stop.isSome)
      | _ => false
    if !inside || c.negated then
      endLine m
      put (ended m text)
    return .ended .deleted
  | .delete => return .ended .deleted
  | .deleteFirst =>
    match firstLine m e.space.text with
    | (_, none) => return .ended .deleted
    | (_, some rest) =>
      setSpace { e.space with text := rest }
      return .ended .again
  | .print => putLine m e.space.text e.space.ends; return .next
  | .printFirst =>
    let (first, rest) := firstLine m e.space.text
    putLine m first (rest.isSome || e.space.ends)
    return .next
  | .next =>
    autoprint m
    if ← isLast m then return .ended .deleted
    else match ← nextLine m with
      | some space => setSpace space; return .next
      | none => return .ended .deleted
  | .appendNext =>
    if ← isLast m then return .ended .done
    else match ← nextLine m with
      | some space => setSpace (joined m e.space space); return .next
      | none => return .ended .done
  | .hold => set { e with held := e.space }; return .next
  | .appendToHeld => set { e with held := joined m e.held e.space }; return .next
  | .get => setSpace e.held; return .next
  | .appendHeld => setSpace (joined m e.space e.held); return .next
  | .swap => set { e with space := e.held, held := e.space }; return .next
  | .clear => setSpace { e.space with text := [] }; return .next
  | .number => endLine m; put ((Text.ofNat e.line).bytes ++ [m.ending]); return .next
  | .fileName => endLine m; put (e.current ++ [m.ending]); return .next
  | .list width =>
    endLine m
    put (ended m (listLines (width.getD m.width) 0 e.space.text))
    return .next
  | .quit code silent => return .ended (.quit code silent)
  | .readFile path => wait (.file path); return .next
  | .readLine path =>
    match ← readerLine m path with
    | some line =>
      wait (.text line)
      return .next
    | none => return .next
  | .writeFile path => writeLine m path e.space.text e.space.ends; return .next
  | .writeFirst path =>
    let (first, rest) := firstLine m e.space.text
    writeLine m path first (rest.isSome || e.space.ends)
    return .next
  | .substitute s => substitute m s; return .next
  | .transliterate pairs =>
    let text := e.space.text.map (fun b =>
      match pairs.reverse.find? (fun p => p.1 == b) with
      | some p => p.2
      | none => b)
    setSpace { e.space with text := text }
    return .next

/-- Runs the script from a command on. -/
def runFrom (m : Manner) (script : Array Command) : Nat → Nat → Edit Ending
  | 0, _ => return .done
  | fuel + 1, i => do
    match script[i]? with
    | none => return .done
    | some c =>
      let selected ← match c.address with
        | none => pure true
        | some a => isSelected m i a
      if selected != c.negated then
        match ← perform m i c with
        | .next => runFrom m script fuel (i + 1)
        | .jump target => runFrom m script fuel target
        | .ended e => return e
      else match c.action with
        | .openBlock => runFrom m script fuel c.target
        | _ => runFrom m script fuel (i + 1)

/-- How many commands one line may take. -/
def stepLimit : Nat := 10000000

/-- Runs the script for line after line; `isRead` says that the space has been read. Returns the
exit code. -/
def cycles (m : Manner) (script : Array Command) : Nat → Bool → Edit Nat
  | 0, _ => return 0
  | fuel + 1, isRead => do
    let present ←
      if isRead then pure true
      else match ← nextLine m with
        | some space => setSpace space; pure true
        | none => pure false
    if !present then return if (← get).failed then 2 else 0
    else match ← runFrom m script stepLimit 0 with
      | .done =>
        autoprint m
        cycles m script fuel false
      | .deleted => cycles m script fuel false
      | .again => dump m; cycles m script fuel true
        | .quit code silent =>
        if !silent then
          autoprint m
          dump m
          endLine m
        return if (← get).failed then 2 else code

end Edit

end LineShell.Userland.Editing
