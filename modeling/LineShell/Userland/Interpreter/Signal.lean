import LineShell.Userland.Interpreter.State
/-!
# Signals in scripts

Signals have numbers and names; number 0 is no signal but the end of the interpreter.
-/

namespace LineShell.Userland.Interpreter

/-- The names of the signals in the order of their numbers, the first at 1. Numbers without a name
stand for themselves. -/
def signalNames : List String :=
  ["HUP", "INT", "QUIT", "ILL", "TRAP", "ABRT", "BUS", "FPE", "KILL", "USR1", "SEGV", "USR2",
    "PIPE", "ALRM", "TERM", "16", "CHLD", "CONT", "STOP", "TSTP", "TTIN", "TTOU", "URG", "XCPU",
    "XFSZ", "VTALRM", "PROF", "WINCH", "IO", "PWR", "SYS", "32", "33", "RTMIN", "RTMIN+1",
    "RTMIN+2", "RTMIN+3", "RTMIN+4", "RTMIN+5", "RTMIN+6", "RTMIN+7", "RTMIN+8", "RTMIN+9",
    "RTMIN+10", "RTMIN+11", "RTMIN+12", "RTMIN+13", "RTMIN+14", "RTMIN+15", "RTMAX-14", "RTMAX-13",
    "RTMAX-12", "RTMAX-11", "RTMAX-10", "RTMAX-9", "RTMAX-8", "RTMAX-7", "RTMAX-6", "RTMAX-5",
    "RTMAX-4", "RTMAX-3", "RTMAX-2", "RTMAX-1", "RTMAX"]

/-- One more than the greatest number of a signal. -/
def signalCount : Nat := 65

/-- The name of a number. -/
def signalName (signal : Nat) : Bytes :=
  if signal = 0 then bytesOf "EXIT" else bytesOf (signalNames.getD (signal - 1) "")

/-- The number that digits write, if they write one. -/
def natural? (word : Bytes) : Option Nat := Text.toNat? (Bytes.text word)

/-- The number of a signal by its number or name. -/
def signalNumber? (word : Bytes) : Option Nat :=
  match natural? word with
  | some n => if n < signalCount then some n else none
  | none =>
    let upper := (Bytes.text word).map Char.toUpper
    if upper = Text.lit "EXIT" then some 0
    else (signalNames.findIdx? (fun name => name.toList == upper)).map (· + 1)

/-- Whether a signal does nothing to a process that has said nothing about it. -/
def isHarmless (signal : Nat) : Bool := [0, 17, 18, 23, 28].contains signal

/-- The words that tell of the end of a child by a signal. -/
def signalWords (signal : Nat) : Bytes :=
  match signal with
  | 1 => bytesOf "Hangup\n"
  | 2 | 13 => []
  | 3 => bytesOf "Quit\n"
  | 4 => bytesOf "Illegal instruction\n"
  | 5 => bytesOf "Trace/breakpoint trap\n"
  | 6 => bytesOf "Aborted\n"
  | 7 => bytesOf "Bus error\n"
  | 8 => bytesOf "Floating point exception\n"
  | 9 => bytesOf "Killed\n"
  | 10 => bytesOf "User defined signal 1\n"
  | 11 => bytesOf "Segmentation fault\n"
  | 12 => bytesOf "User defined signal 2\n"
  | 14 => bytesOf "Alarm clock\n"
  | 15 => bytesOf "Terminated\n"
  | _ => bytesOf "Unknown signal\n"

/-- Takes a signal that was sent to the interpreter: it waits for its turn where something is said
about it, and else it may be the end. What is said about an interrupt counts only if its action can
be changed; that it cannot is no error. -/
def receive (signal : Nat) : Interp Unit := do
  let s ← get
  match (if s.locked && signal = 2 then none else Table.get? signal s.traps) with
  | some [] => return ()
  | some _ => modify fun s => { s with pending := s.pending ++ [signal] }
  | none => if isHarmless signal then return () else (halt (.killed signal) : Run Unit)

/-- What the words of `kill` ask for. -/
inductive Sending where
  | listAll
  | describe (word : Bytes)
  | send (signal : Nat) (targets : List Bytes)

/-- Reads the words of `kill`; on failure the complaint. -/
def Sending.read (words : List Bytes) : Except Bytes Sending :=
  let usage := bytesOf "Usage: kill [-s sigspec | -signum | -sigspec] [pid | job]... or\n" ++
    bytesOf "kill -l [exitstatus]"
  let toTargets := fun (signal : Nat) (targets : List Bytes) =>
    let targets := if targets.head? = some (bytesOf "--") then targets.drop 1 else targets
    if targets.isEmpty then .error usage else .ok (.send signal targets)
  match words with
  | [] => .error usage
  | (0x2d :: letters) :: rest =>
    if letters.isEmpty || letters = [0x2d] then toTargets 15 rest
    else if letters = [byte 'l'] then
      match rest with
      | [] => .ok .listAll
      | word :: _ => .ok (.describe word)
    else if letters.head? = some (byte 's') then
      let (name?, rest) := if letters.length = 1 then (rest.head?, rest.drop 1)
        else (some (letters.drop 1), rest)
      match name? with
      | none => .error (bytesOf "No arg for -s option")
      | some name =>
        match signalNumber? name with
        | some signal => toTargets signal rest
        | none => .error (bytesOf "invalid signal number or name: " ++ name)
    else match signalNumber? letters with
      | some signal => toTargets signal rest
      | none => .error (bytesOf "Illegal option -" ++ letters.take 1)
  | _ => toTargets 15 words

/-- Sends a signal to one process: to the interpreter itself, or to its parent, which ignores
interrupts while it waits. -/
def sendTo (signal : Nat) (target : Bytes) : Interp Nat := do
  let s ← get
  match natural? target with
  | none =>
    if target.head? = some (byte '%') then refuse (bytesOf "No such job: " ++ target)
    else refuse (bytesOf "Illegal number: " ++ target)
  | some pid =>
    if pid = s.pid then
      receive signal
      return 0
    else if pid = s.parent && (signal = 2 || isHarmless signal) then return 0
    else
      say (bytesOf "No such process\n")
      return 1

/-- Sends signals or shows their names. -/
def kill (words : List Bytes) : Interp Nat := do
  match Sending.read words with
  | .error complaint => refuse complaint
  | .ok .listAll =>
    (out (bytesOf "0\n" ++ signalNames.flatMap (fun n => bytesOf n ++ [10])) : Run Unit)
    return 0
  | .ok (.describe word) =>
    match natural? word with
    | none => refuse (bytesOf "Illegal number: " ++ word)
    | some n =>
      let signal := if 128 < n then n - 128 else n
      if 0 < signal && signal < signalCount then
        (outLines [signalName signal] : Run Unit)
        return 0
      else refuse (bytesOf "invalid signal number or exit status: " ++ word)
  | .ok (.send signal targets) =>
    targets.foldlM (fun code target => do
      let next ← sendTo signal target
      return max code next) 0

/-- A word in single quotes, as it could be written in a script; its own single quotes are put into
double quotes. -/
def inSingleQuotes : Nat → Bytes → Bytes
  | 0, _ => []
  | fuel + 1, word =>
    let isQuote := fun (b : UInt8) => b == byte '\''
    let plain := word.takeWhile (fun b => !isQuote b)
    let behind := word.drop plain.length
    let quotes := behind.takeWhile isQuote
    let rest := behind.drop quotes.length
    byte '\'' :: plain ++ [byte '\''] ++
      (if quotes.isEmpty then [] else byte '"' :: quotes ++ [byte '"']) ++
      (if rest.isEmpty then [] else inSingleQuotes fuel rest)

/-- A word as it could be written in a script. -/
def rewritten (word : Bytes) : Bytes := inSingleQuotes (word.length + 1) word

/-- Says what is done on signals. -/
def trap (words : List Bytes) : Interp Nat := do
  let words := if words.head? = some (bytesOf "--") then words.drop 1 else words
  match words with
  | [] =>
    let traps := (← get).traps
    let lines := (List.range signalCount).filterMap (fun signal =>
      (Table.get? signal traps).map (fun action =>
        bytesOf "trap -- " ++ rewritten action ++ byte ' ' :: signalName signal))
    (outLines lines : Run Unit)
    return 0
  | first :: rest =>
    -- A number as the first word takes what was said back.
    let (action, signals) : Option Bytes × List Bytes :=
      if rest.isEmpty || (natural? first).isSome then (none, first :: rest)
      else if first = bytesOf "-" then (none, rest)
      else (some first, rest)
    signals.foldlM (fun code word => do
      match signalNumber? word with
      | some signal =>
        modify fun s => { s with traps := match action with
          | some action => Table.put signal action s.traps
          | none => Table.remove signal s.traps }
        return code
      | none =>
        (err (bytesOf "trap: " ++ word ++ bytesOf ": bad trap\n") : Run Unit)
        return 1) 0

end LineShell.Userland.Interpreter
