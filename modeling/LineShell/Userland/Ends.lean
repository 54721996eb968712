import LineShell.Userland.Basic
/-!
# The two ends of a file

`head` and `tail`.
-/

namespace LineShell.Userland

/-- A count of lines or bytes, with the sign in front of it. -/
structure Amount where
  sign : Option Char
  count : Nat
  bytes : Bool

/-- Reads a count with an optional sign and multiplier; fails with what is said of it. -/
def amountOf (word : Bytes) (bytes : Bool) : Except Bytes Amount :=
  let t := Bytes.text word
  let (sign, counted) := match t with
    | '-' :: rest => (some '-', rest)
    | '+' :: rest => (some '+', rest)
    | _ => (none, t)
  let digits := counted.dropWhile (· == ' ')
  let number := digits.takeWhile Char.isDigit
  let factor := match String.ofList (digits.drop number.length) with
    | "" => some 1
    | "b" => some 512
    | "kB" => some 1000
    | "k" | "K" | "KiB" => some 1024
    | "MB" => some 1000000
    | "m" | "M" | "MiB" => some 1048576
    | _ => none
  let fault := bytesOf "invalid number of " ++
    (if bytes then bytesOf "bytes" else bytesOf "lines") ++ bytesOf ": " ++
    Quoting.word (if sign = some '-' then word.drop 1 else word)
  match Text.toNat? number, factor with
  | some n, some f =>
    if 18446744073709551615 < n * f then
      .error (fault ++ bytesOf ": Value too large for defined data type")
    else .ok ⟨sign, n * f, bytes⟩
  | _, _ => .error fault

/-- The first lines of a stream. -/
def firstLines : Nat → Bytes → Bytes
  | 0, _ => []
  | n + 1, bytes =>
    if bytes.isEmpty then []
    else
      let (line, rest) := cutLine bytes
      line ++ firstLines n rest

/-- What `head` shows of a stream. -/
def headOf (a : Amount) (s : Stream) : Bytes :=
  let fromEnd := a.sign == some '-'
  if a.bytes then
    if fromEnd then s.bytes.take (s.bytes.length - a.count)
    else (s.unroll a.count).bytes.take a.count
  else if fromEnd then
    let lines := rawLines s.bytes
    (lines.take (lines.length - a.count)).flatten
  else firstLines a.count (s.unroll (s.bytes.length + a.count * s.cycle.length)).bytes

/-- What `tail` shows of a stream. -/
def tailOf (a : Amount) (s : Stream) : Bytes :=
  let fromStart := a.sign == some '+'
  if a.bytes then
    if fromStart then s.bytes.drop (a.count - 1) else s.bytes.drop (s.bytes.length - a.count)
  else
    let lines := rawLines s.bytes
    if fromStart then (lines.drop (a.count - 1)).flatten
    else (lines.drop (lines.length - a.count)).flatten

/-- The line above a file when several are shown. -/
def fileHeader (first : Bool) (operand : Bytes) : Bytes :=
  (if first then [] else [10]) ++ bytesOf "==> " ++
    (if operand = bytesOf "-" then bytesOf "standard input" else operand) ++ bytesOf " <==\n"

/-- Shows a part of each operand, which `read` takes from it. -/
def showParts (name : Bytes) (headers : Bool) (read : Bytes → Run Contents) :
    Bool → List Bytes → Run Bool
  | _, [] => pure true
  | first, operand :: rest => do
    match ← read operand with
    | .stream s =>
      if headers then out (fileHeader first operand)
      out s.bytes
      showParts name headers read false rest
    | .notOpened e =>
      complainOf name (bytesOf "cannot open " ++ Quoting.always operand ++ bytesOf " for reading") e
      let _ ← showParts name headers read first rest
      return false
    | .notRead e =>
      if headers then out (fileHeader first operand)
      complainOf name (bytesOf "error reading " ++ Quoting.always operand) e
      let _ ← showParts name headers read false rest
      return false

/-- A word made of a sign, digits and letters. -/
def oldCount? (signs : List Char) (word : Bytes) : Option (Bytes × Text) :=
  let t := Bytes.text word
  let digits := (t.drop 1).takeWhile Char.isDigit
  if t.head?.any signs.contains && !digits.isEmpty then
    some (word.take (digits.length + 1), t.drop (digits.length + 1))
  else none

/-- The words of `head` with an old count, a dash and a number in front, written as options. Letters
behind the number are options too, of which `c` and `l` say what is counted. -/
def modernHead (args : List Bytes) : List Bytes :=
  match args with
  | [] => []
  | word :: rest =>
    match oldCount? ['-'] word with
    | none => args
    | some (count, letters) =>
      let unit := (letters.filter (fun c => c == 'c' || c == 'l')).getLast?
      let others := letters.filter (fun c => c != 'c' && c != 'l')
      [if unit = some 'c' then bytesOf "-c" else bytesOf "-n", count.drop 1] ++
        (if others.isEmpty then [] else [Text.bytes ('-' :: others)]) ++ rest

/-- The words of `tail` with an old count written as an option. It stands in front of one operand at
most. -/
def modernTail (args : List Bytes) : List Bytes :=
  match args with
  | [] => []
  | word :: rest =>
    let alone := match rest with
      | [] => true
      | [operand] => operand.length ≤ 1 || operand.head? != some (byte '-') ||
          operand = bytesOf "--"
      | [dashes, _] => dashes = bytesOf "--"
      | _ => false
    match oldCount? ['-', '+'] word with
    | some (count, letters) =>
      let count := if count.head? == some (byte '-') then count.drop 1 else count
      match alone, letters with
      | true, [] | true, ['l'] => bytesOf "-n" :: count :: rest
      | true, ['c'] => bytesOf "-c" :: count :: rest
      | _, _ => args
    | none => args

/-- What tells `head` and `tail` apart. -/
structure EndShown where
  /-- Old forms of counts written as options. -/
  modern : List Bytes → List Bytes
  /-- The message about a digit that stands as an option, and whether help is pointed to. -/
  strayDigit : String × Bool
  /-- The amount that holds when several are given. -/
  settle : Amount → Amount → Amount
  /-- Amounts that are shown without opening anything. -/
  idle : Amount → Bool
  /-- Takes the part from behind a number. -/
  read : Amount → Nat → Run (Except Errno Stream)

/-- The body of `head` and `tail`. -/
def showEnds (way : EndShown) : Program := fun name args => do
  let known : Options := ⟨['q', 'v', 'f', 'z'], ['n', 'c'],
    [("lines", 'n'), ("bytes", 'c'), ("quiet", 'q'), ("silent", 'q'), ("verbose", 'v')]⟩
  let (options, operands) ← match known.read true (way.modern args) with
    | .ok r => pure r
    | .error e =>
      match e with
      | .unknown c =>
        if c.isDigit then
          complain name (bytesOf way.strayDigit.1 ++ Text.Utf8.encodeChar c)
          if way.strayDigit.2 then pointToHelp name
          exit 1
        else misuse name e.message 1
      | e => misuse name e.message 1
  let amounts ← (options.filter (fun o => o.1 == 'n' || o.1 == 'c')).mapM (fun o =>
    match amountOf o.2 (o.1 == 'c') with
    | .ok a => pure a
    | .error message => do
      complain name message
      exit 1)
  let a := match amounts with
    | [] => ⟨none, 10, false⟩
    | first :: more => more.foldl way.settle first
  let headers := given options 'v' || (1 < operands.length && !given options 'q')
  if way.idle a then return 0
  else
    let ok ← showParts name headers (readWith (way.read a)) true (orInput operands)
    return codeOf ok

/-- How many bytes one read takes. -/
def blockSize : Nat := 8192

/-- How many bytes of a stream `head` takes to show a part of it. From a file it takes what it
shows, by going back to where the part ends. From anything else it takes whole blocks when it counts
lines, and all when it counts from the end. -/
def takenByHead (a : Amount) (ofFile : Bool) (s : Stream) (part : Bytes) : Nat :=
  if ofFile then part.length
  else if a.sign == some '-' then s.bytes.length
  else if a.bytes then part.length
  else if part.count 10 = a.count then
    let blocks := (part.length + blockSize - 1) / blockSize * blockSize
    if s.cycle.isEmpty then min blocks s.bytes.length else blocks
  else s.bytes.length

/-- Takes the first lines or bytes of what is behind a number. To show none, nothing is read. -/
def readHead (a : Amount) (fd : Nat) : Run (Except Errno Stream) := do
  if a.count = 0 && a.sign != some '-' then return .ok (.finite [])
  else match ← (Call.peek fd : Call _) with
  | .error e => return .error e
  | .ok s =>
    let part := headOf a s
    let ofFile := (← fileBehind fd).isSome
    (Call.skip fd (takenByHead a ofFile s part) : Call Unit)
    return .ok (.finite part)

/-- Shows the first lines or bytes. -/
def head : Program := showEnds
  { modern := modernHead
    strayDigit := ("invalid trailing option -- ", true)
    settle := fun _ last => last
    idle := fun _ => false
    read := readHead }

/-- Shows the last lines or bytes. To show none of them, nothing is opened. A count from the start
makes the ones behind it counts from the start. -/
def tail : Program := showEnds
  { modern := modernTail
    strayDigit := ("option used in invalid context -- ", false)
    settle := fun first last =>
      if first.sign = some '+' then { last with sign := some '+' } else last
    idle := fun a => a.count = 0 && a.sign != some '+'
    read := fun a fd => do
      return (← slurp fd).map (fun s => .finite (tailOf a s)) }

end LineShell.Userland
