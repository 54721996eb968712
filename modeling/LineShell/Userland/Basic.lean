import LineShell.Machine.Exec
import LineShell.Text.RawLines
import LineShell.Userland.Quoting
/-!
# Programs

A program runs in the context of its process and ends with an exit code, or earlier: a write into a
pipe that nobody reads kills it, and output that cannot be written ends it with a message. Here are
the parts that programs share: output, messages, reading operands, and reading options.
-/

namespace LineShell.Userland

/-- Why a program ends before its last step. -/
inductive Halt where
  | ended (status : Status)
  /-- The output could not be written. -/
  | unwritten (e : Errno)
  deriving DecidableEq, Repr

/-- A computation of a program; it may end before its last step. -/
abbrev Run := ExceptT Halt Call

/-- A program gets its own name and its arguments, and ends with an exit code. -/
abbrev Program := Bytes → List Bytes → Run Nat

/-- The number of the signal of a broken pipe. -/
def brokenPipeSignal : Nat := 13

/-- Ends the program with a status. -/
def halt {α : Type} (status : Status) : Run α := throw (.ended status)

/-- Ends the program with an exit code. -/
def exit {α : Type} (code : Nat) : Run α := halt (.exited code)

/-- Ends the program after a failed write. -/
def failWrite {α : Type} (e : Errno) : Run α :=
  if e = .brokenPipe then halt (.killed brokenPipeSignal) else throw (.unwritten e)

/-- Writes to a number. -/
def writeTo (fd : Nat) (bytes : Bytes) : Run Unit := do
  if bytes.isEmpty then pure ()
  else match ← (Call.write fd bytes : Call _) with
    | .ok () => pure ()
    | .error e =>
      -- A message that cannot be shown is lost.
      if fd = 2 && e != .brokenPipe then pure () else failWrite e

/-- Writes to the output. -/
def out (bytes : Bytes) : Run Unit := writeTo 1 bytes

/-- Writes to the error output. -/
def err (bytes : Bytes) : Run Unit := writeTo 2 bytes

/-- A message of a program: its name, what happened, and a line feed. -/
def complain (name : Bytes) (message : Bytes) : Run Unit :=
  err (name ++ bytesOf ": " ++ message ++ [10])

/-- A message with the text of a failure at its end. -/
def complainOf (name : Bytes) (message : Bytes) (e : Errno) : Run Unit :=
  complain name (message ++ bytesOf ": " ++ e.description.bytes)

/-- The line that points to the help of a program. -/
def pointToHelp (name : Bytes) : Run Unit :=
  err (bytesOf "Try '" ++ name ++ bytesOf " --help' for more information.\n")

/-- A message about wrong usage, which ends the program. -/
def misuse {α : Type} (name : Bytes) (message : Bytes) (code : Nat) : Run α := do
  complain name message
  pointToHelp name
  exit code

/-- The order of bytes. -/
def bytesLe : Bytes → Bytes → Bool
  | [], _ => true
  | _ :: _, [] => false
  | a :: as, b :: bs => if a < b then true else if b < a then false else bytesLe as bs

/-- Whether a byte is white space. -/
def isSpace (b : UInt8) : Bool := b == 32 || (9 ≤ b && b ≤ 13)

/-- The bytes up to the next line feed and with it, and what follows. -/
def cutLine (bytes : Bytes) : Bytes × Bytes :=
  let line := bytes.takeWhile (· != 10)
  match bytes.dropWhile (· != 10) with
  | [] => (line, [])
  | feed :: rest => (line ++ [feed], rest)

/-- The lines of bytes without their line feeds. -/
def linesOf (bytes : Bytes) : List Bytes := (rawLines bytes).map (fun l => l.filter (· != 10))

/-- Reads everything behind a number, leaving it at its end. An endless stream gives its beginning
only; such a stream is cut by its readers. -/
def slurp (fd : Nat) : Run (Except Errno Stream) := do
  match ← (Call.peek fd : Call _) with
  | .error e => return .error e
  | .ok s =>
    (Call.skip fd s.bytes.length : Call Unit)
    return .ok s

/-- Opens an operand for reading, `-` being the input. The flag says whether to close it. -/
def openOperand (operand : Bytes) : Run (Except Errno (Nat × Bool)) := do
  if operand = bytesOf "-" then return .ok (0, false)
  else match ← (Call.openFile operand .reading : Call _) with
    | .ok fd => return .ok (fd, true)
    | .error e => return .error e

/-- What reading an operand came to. -/
inductive Contents where
  | stream (s : Stream)
  | notOpened (e : Errno)
  | notRead (e : Errno)

/-- Opens an operand and reads of it what `read` takes from its number. -/
def readWith (read : Nat → Run (Except Errno Stream)) (operand : Bytes) : Run Contents := do
  match ← openOperand operand with
  | .error e => return .notOpened e
  | .ok (fd, closes) =>
    let r ← read fd
    if closes then (Call.close fd : Call Unit)
    match r with
    | .ok s => return .stream s
    | .error e => return .notRead e

/-- Reads an operand to its end. -/
def readOperand : Bytes → Run Contents := readWith slurp

/-- The contents of the regular file behind a number, and the position in it. -/
def fileBehind (fd : Nat) : Run (Option (Bytes × Nat)) := do
  let c ← (get : Call Context)
  let found : Option (Bytes × Nat) := do
    let h ← Table.get? fd c.self.descriptors
    let d ← c.machine.description? h.description
    match d.channel with
    | .node i =>
      match (← c.machine.tree.node? i).kind with
      | .file content => some (content, d.offset)
      | _ => none
    | _ => none
  return found

/-- Moves the position in the regular file behind a number. -/
def moveTo (fd : Nat) (offset : Nat) : Run Unit := do
  let c ← (get : Call Context)
  match Table.get? fd c.self.descriptors with
  | none => pure ()
  | some h => (set { c with machine := c.machine.setOffset h.description offset } : Call Unit)

/-- The operands, or the input when there are none. -/
def orInput (operands : List Bytes) : List Bytes :=
  if operands.isEmpty then [bytesOf "-"] else operands

/-- Writes a stream, endless ones too. -/
def outStream (s : Stream) : Run Unit := do
  out s.bytes
  if s.cycle.isEmpty then pure ()
  else match ← (Call.writeEndless 1 s.cycle : Call _) with
    | .ok () => pure ()
    | .error e => failWrite e

/-! ### Options -/

/-- Which options a program has: letters alone, letters with a value, and long names for them. -/
structure Options where
  flags : List Char
  valued : List Char
  long : List (String × Char)

/-- One option met: its letter and its value. -/
abbrev OptionGiven := Char × Bytes

/-- Why options cannot be read. -/
inductive OptionError where
  | unknown (c : Char)
  | unknownLong (word : Bytes)
  | missing (c : Char)
  | missingLong (longName : Bytes)
  | unwanted (longName : Bytes)

/-- The message of a wrong option. -/
def OptionError.message : OptionError → Bytes
  | .unknown c => bytesOf "invalid option -- '" ++ Text.Utf8.encodeChar c ++ bytesOf "'"
  | .unknownLong word => bytesOf "unrecognized option '" ++ word ++ bytesOf "'"
  | .missing c =>
    bytesOf "option requires an argument -- '" ++ Text.Utf8.encodeChar c ++ bytesOf "'"
  | .missingLong longName => bytesOf "option '--" ++ longName ++ bytesOf "' requires an argument"
  | .unwanted longName => bytesOf "option '--" ++ longName ++ bytesOf "' doesn't allow an argument"

namespace Options

/-- The letters of one word. An option with a value takes the rest of the word, and the second
result says that its value is the next word. -/
def letters (o : Options) : Bytes → Except OptionError (List OptionGiven × Option Char)
  | [] => .ok ([], none)
  | b :: rest =>
    let c := Char.ofNat b.toNat
    if o.flags.contains c then
      (letters o rest).map (fun r => ((c, []) :: r.1, r.2))
    else if o.valued.contains c then
      if rest.isEmpty then .ok ([], some c) else .ok ([(c, rest)], none)
    else .error (.unknown c)

/-- Reads the options among the words. With `mixed` they may stand behind operands, else the first
operand ends them. -/
def read (o : Options) (mixed : Bool) :
    List Bytes → Except OptionError (List OptionGiven × List Bytes)
  | [] => .ok ([], [])
  | word :: rest =>
    if word = bytesOf "--" then .ok ([], rest)
    else if (bytesOf "--").isPrefixOf word then
      let body := word.drop 2
      let longName := body.takeWhile (· != byte '=')
      let value := (body.drop (longName.length + 1))
      let alone := longName.length = body.length
      match o.long.find? (fun e => bytesOf e.1 == longName) with
      | none => .error (.unknownLong word)
      | some (_, c) =>
        if !o.valued.contains c && !alone then .error (.unwanted longName)
        else if o.valued.contains c && alone then
          match rest with
          | [] => .error (.missingLong longName)
          | v :: rest => (read o mixed rest).map (fun r => ((c, v) :: r.1, r.2))
        else (read o mixed rest).map (fun r => ((c, value) :: r.1, r.2))
    else if 1 < word.length && word.head? == some (byte '-') then
      match o.letters (word.drop 1) with
      | .error e => .error e
      | .ok (given, none) => (read o mixed rest).map (fun r => (given ++ r.1, r.2))
      | .ok (given, some c) =>
        match rest with
        | [] => .error (.missing c)
        | v :: rest => (read o mixed rest).map (fun r => (given ++ (c, v) :: r.1, r.2))
    else if mixed then (read o mixed rest).map (fun r => (r.1, word :: r.2))
    else .ok ([], word :: rest)

/-- Reads the options, or complains and ends the program. -/
def getWith (o : Options) (mixed : Bool) (name : Bytes) (args : List Bytes) (code : Nat) :
    Run (List OptionGiven × List Bytes) :=
  match o.read mixed args with
  | .ok r => pure r
  | .error e => misuse name e.message code

/-- Reads the options wherever they stand. -/
def get (o : Options) : Bytes → List Bytes → Nat → Run (List OptionGiven × List Bytes) :=
  o.getWith true

/-- Reads the options that stand before the first operand. -/
def getLeading (o : Options) : Bytes → List Bytes → Nat → Run (List OptionGiven × List Bytes) :=
  o.getWith false

end Options

/-- Whether a letter was given. -/
def given (options : List OptionGiven) (c : Char) : Bool := options.any (fun o => o.1 == c)

/-- The last value given to a letter. -/
def valueOf (options : List OptionGiven) (c : Char) : Option Bytes :=
  (options.filter (fun o => o.1 == c)).getLast?.map Prod.snd

/-- Right-aligned in a field. -/
def padLeft (width : Nat) (t : Text) : Text := List.replicate (width - t.length) ' ' ++ t

/-- Writes lines, each with a line feed. -/
def outLines (lines : List Bytes) : Run Unit := out (lines.flatMap (· ++ [10]))

/-- A message about an operand that could not be read, in the wording of one program. -/
structure ReadWording where
  notOpened : Bytes → Bytes
  notRead : Bytes → Bytes

/-- The operand itself, in both cases. -/
def ReadWording.plain : ReadWording := ⟨Quoting.whereNeeded, Quoting.whereNeeded⟩

/-- Reads the operands in order and gives each to `use`; returns whether all could be read. -/
def forOperands (name : Bytes) (wording : ReadWording) (read : Bytes → Run Contents)
    (use : Bytes → Stream → Run Unit) : List Bytes → Run Bool
  | [] => pure true
  | operand :: rest => do
    let ok ← match ← read operand with
      | .stream s => do use operand s; pure true
      | .notOpened e => do complainOf name (wording.notOpened operand) e; pure false
      | .notRead e => do complainOf name (wording.notRead operand) e; pure false
    let others ← forOperands name wording read use rest
    return ok && others

/-- The exit code of a success or a failure. -/
def codeOf (ok : Bool) : Nat := if ok then 0 else 1

end LineShell.Userland
