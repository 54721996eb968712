import LineShell.Source.History
import LineShell.Source.ScriptLines
/-!
# Where lines come from

One given line, a script behind a descriptor, or a terminal. `Source.next` reads one line and gives
the source behind it; after the end every further read is the end again.
-/

namespace LineShell

/-- What the user does with a line at the terminal. -/
inductive Key where
  | enter
  /-- Gives the line up. -/
  | interrupt
  /-- Ends the input. -/
  | endOfInput
  deriving DecidableEq, Repr

/-- One line typed at the terminal. -/
structure Entry where
  typed : Text
  key : Key
  deriving DecidableEq, Repr

/-- Where lines come from. -/
inductive Source where
  | oneShot (line : Option Text)
  | script (descriptor : Nat) (buffered : Bytes)
  /-- A terminal is watched for input from the first read on. -/
  | terminal (entries : List Entry) (history : History) (watched : Bool)
  deriving DecidableEq, Repr

namespace Source

/-- How many bytes of a script are read at once. -/
def bufferSize : Nat := 8192

/-- Reads the next part of a script. -/
def refill (descriptor : Nat) : Proc (Except IoError Bytes) := do
  match ← Proc.call (Call.read descriptor bufferSize) with
  | .ok bytes => return .ok bytes
  | .error e => return .error (.call e)

/-- How many bytes are still ahead of a descriptor, which bounds the refills of one line. -/
def ahead (descriptor : Nat) : Proc Nat := do
  match ← Proc.call (Call.peek descriptor) with
  | .ok s => return s.bytes.length
  | .error _ => return 0

/-- What the log is told when a terminal begins to be watched: its input, and the changes of its
size. -/
def watchRecords : List Log.Record :=
  [0, 1].map fun (token : Nat) =>
    ⟨.trace, Text.lit "mio::poll",
      Text.lit "registering event source with poller: token=Token(" ++ Text.ofNat token ++
        Text.lit "), interests=READABLE",
      ["log.target", "log.module_path", "log.file", "log.line"].map Log.Record.silent⟩

/-- Takes the next entry of a terminal. -/
def nextEntry : List Entry → History → Line × Source
  | [], history => (.eof, terminal [] history true)
  | entry :: rest, history =>
    match entry.key with
    | .enter => (.text entry.typed, terminal rest (history.save entry.typed) true)
    | .interrupt => (.interrupted, terminal rest history true)
    | .endOfInput => (.eof, terminal rest history true)

/-- Reads one line. -/
def next : Source → Proc (Except IoError Line × Source)
  | oneShot line => return (.ok ((line.map Line.text).getD .eof), oneShot none)
  | script descriptor buffered => do
    let bound ← ahead descriptor
    match ← ScriptLines.takeLine (refill descriptor) (bound + 2) [] buffered with
    | (.ok raw, buffered) => return (.ok (ScriptLines.ofRaw raw), script descriptor buffered)
    | (.error e, buffered) => return (.error e, script descriptor buffered)
  | terminal entries history watched => do
    unless watched do watchRecords.forM Proc.log
    let (line, source) := nextEntry entries history
    return (.ok line, source)

/-- What is left to do when a source is given up: the history of a terminal is kept. -/
def finish : Source → Proc Unit
  | terminal _ history _ => history.finish
  | _ => pure ()

/-- How many entries of a terminal were not read. -/
def unread : Source → Nat
  | terminal entries _ _ => entries.length
  | _ => 0

end Source

end LineShell
