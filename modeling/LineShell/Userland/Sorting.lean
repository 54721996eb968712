import LineShell.Userland.Records
import LineShell.Userland.Sorting.Key
/-!
# Order and repetition

`sort` and `uniq`.
-/

namespace LineShell.Userland

/-- How lines are ordered. -/
structure SortStyle where
  keys : List SortKey
  separator : Option UInt8
  /-- Whether lines with the same keys are in the opposite order of their bytes. -/
  reverse : Bool
  unique : Bool
  /-- Lines with the same keys stay in their order. -/
  stable : Bool

namespace SortStyle

/-- The order of two lines by their keys. -/
def byKeys (style : SortStyle) (a b : Bytes) : Ordering :=
  style.keys.foldl (fun o k => o.then
    (k.order.compare (k.of style.separator a) (k.of style.separator b))) .eq

/-- The order of two lines. Equal keys are ordered by all bytes, unless they stay in their order or
only one line of each is kept. -/
def compare (style : SortStyle) (a b : Bytes) : Ordering :=
  (style.byKeys a b).then
    (if style.unique || style.stable then .eq
    else if style.reverse then bytesOrder b a
    else bytesOrder a b)

/-- Whether one line may stand before another. -/
def le (style : SortStyle) (a b : Bytes) : Bool := style.compare a b != .gt

/-- Leaves out lines with the keys of the line before. -/
def once (style : SortStyle) : List Bytes → List Bytes
  | a :: b :: rest =>
    if style.byKeys a b = .eq then once style (a :: rest) else a :: once style (b :: rest)
  | lines => lines
termination_by lines => lines.length

/-- The first line that is out of order, and its number. -/
def disorder? (style : SortStyle) : Nat → List Bytes → Option (Nat × Bytes)
  | n, a :: b :: rest =>
    let o := style.compare a b
    if o = .gt || (style.unique && o = .eq) then some (n + 1, b)
    else style.disorder? (n + 1) (b :: rest)
  | _, _ => none

end SortStyle

/-- The options of `sort`. Letters that no byte has stand for long names alone. -/
def sortOptions : Options :=
  { flags := SortKey.orderLetters ++ ['u', 's', 'c', 'C', 'm', 'z']
    valued := ['o', 'k', 't', 'S', 'T', 'π']
    long := [("numeric-sort", 'n'), ("reverse", 'r'), ("unique", 'u'), ("ignore-case", 'f'),
      ("output", 'o'), ("key", 'k'), ("stable", 's'), ("field-separator", 't'), ("check", 'c'),
      ("merge", 'm'), ("zero-terminated", 'z'), ("ignore-leading-blanks", 'b'),
      ("dictionary-order", 'd'), ("general-numeric-sort", 'g'), ("human-numeric-sort", 'h'),
      ("ignore-nonprinting", 'i'), ("month-sort", 'M'), ("version-sort", 'V'),
      ("random-sort", 'R'), ("buffer-size", 'S'), ("temporary-directory", 'T'),
      ("parallel", 'π')] }

/-- The separator of fields that an option wants. -/
def separatorOf (name : Bytes) : Option Bytes → Run (Option UInt8)
  | none => return none
  | some [b] => return some b
  | some [] => do
    complain name (bytesOf "empty tab")
    exit 2
  | some word => do
    if word = bytesOf "\\0" then return some 0
    complain name (bytesOf "multi-character tab " ++ Quoting.word word)
    exit 2

/-- Refuses letters of an order that do not go together. -/
def refuseMixed (name : Bytes) (order : KeyOrder) : Run Unit := do
  let kinds := ['g', 'h', 'M', 'n'].filter order.has
  let others := if ['V', 'R', 'd', 'i'].any order.has then 1 else 0
  if 1 < kinds.length + others then
    let shown := ['d', 'f', 'g', 'h', 'i', 'M', 'n', 'R', 'V'].filter order.has
    complain name (bytesOf "options '-" ++ Text.bytes shown ++ bytesOf "' are incompatible")
    exit 2

/-- Sorts lines, or tells whether they are sorted. -/
def sort : Program := fun name args => do
  let (options, operands) ← sortOptions.get name args 2
  let has := given options
  let general : KeyOrder :=
    ⟨(options.filter (fun o => SortKey.orderLetters.contains o.1)).map Prod.fst⟩
  let separator ← separatorOf name (valueOf options 't')
  let keys ← (options.filter (fun o => o.1 == 'k')).mapM (fun o =>
    match SortKey.ofBytes general o.2 with
    | .ok k => pure k
    | .error fault => do
      complain name fault.message
      exit 2)
  let keys := if keys.isEmpty then [.whole general] else keys
  keys.forM (fun k => refuseMixed name k.order)
  let style : SortStyle :=
    { keys, separator, reverse := has 'r', unique := has 'u', stable := has 's' }
  let ending : UInt8 := if has 'z' then 0 else 10
  let checks := has 'c' || has 'C'
  if has 'c' && has 'C' then
    complain name (bytesOf "options '-cC' are incompatible")
    exit 2
  if checks && has 'o' then
    complain name (bytesOf "options '-" ++ bytesOf (if has 'C' then "C" else "c") ++
      bytesOf "o' are incompatible")
    exit 2
  if let (true, some extra) := (checks, operands[1]?) then
    complain name (bytesOf "extra operand " ++ Quoting.always extra ++ bytesOf " not allowed with -" ++
      bytesOf (if has 'C' then "C" else "c"))
    exit 2
  let contents ← (orInput operands).mapM (fun operand => do
    match ← readOperand operand with
    | .stream s => pure s.bytes
    | .notOpened e =>
      complainOf name (bytesOf "cannot read: " ++ Quoting.whereNeeded operand) e
      exit 2
    | .notRead e =>
      complainOf name (bytesOf "read failed: " ++ Quoting.whereNeeded operand) e
      exit 2)
  let lines := contents.flatMap (recordTexts ending)
  if checks then
    match style.disorder? 1 lines with
    | none => return 0
    | some (number, line) =>
      if !has 'C' then
        complain name ((operands.head?.getD (bytesOf "-")) ++ bytesOf ":" ++
          (Text.ofNat number).bytes ++ bytesOf ": disorder: " ++ line)
      return 1
  let sorted := lines.mergeSort style.le
  let sorted := if style.unique then style.once sorted else sorted
  let written := sorted.flatMap (· ++ [ending])
  match valueOf options 'o' with
  | none => out written
  | some target =>
    match ← (Call.openFile target .truncating : Call _) with
    | .error e =>
      complainOf name (bytesOf "open failed: " ++ Quoting.whereNeeded target) e
      exit 2
    | .ok fd =>
      writeTo fd written
      (Call.close fd : Call Unit)
  return 0

/-- Lines with the equal ones that follow them. Each line is compared with the first of its run. -/
def runsOf (same : Bytes → Bytes → Bool) : List Bytes → List (List Bytes)
  | [] => []
  | line :: rest =>
    let alike := rest.takeWhile (same line)
    (line :: alike) :: runsOf same (rest.drop alike.length)
termination_by lines => lines.length
decreasing_by simp only [List.length_cons, List.length_drop]; omega

/-- Which part of a line counts when lines are compared. -/
structure UniqueStyle where
  fields : Nat
  skipped : Nat
  width : Option Nat
  folds : Bool

/-- The part of a line that counts. -/
def UniqueStyle.part (style : UniqueStyle) (line : Bytes) : Bytes :=
  let behind := (line.drop (SortKey.fieldsLength none true style.fields line)).drop style.skipped
  let part := match style.width with
    | some n => behind.take n
    | none => behind
  if style.folds then part.map (fun b => if 97 ≤ b && b ≤ 122 then b - 32 else b) else part

/-- The number that an option wants. -/
def wantedNumber (name : Bytes) (options : List OptionGiven) (c : Char) (words : String) :
    Run (Option Nat) := do
  match valueOf options c with
  | none => return none
  | some word =>
    match Text.toNat? (Bytes.text word) with
    | some n => return some n
    | none =>
      complain name (word ++ bytesOf ": " ++ bytesOf words)
      exit 1

/-- Leaves out lines equal to the one before. -/
def uniq : Program := fun name args => do
  let (options, operands) ← Options.get
    ⟨['c', 'd', 'u', 'i', 'D', 'z'], ['f', 's', 'w'],
      [("count", 'c'), ("repeated", 'd'), ("unique", 'u'), ("ignore-case", 'i'),
        ("all-repeated", 'D'), ("zero-terminated", 'z'), ("skip-fields", 'f'),
        ("skip-chars", 's'), ("check-chars", 'w')]⟩ name args 1
  let has := given options
  let fields ← wantedNumber name options 'f' "invalid number of fields to skip"
  let skipped ← wantedNumber name options 's' "invalid number of bytes to skip"
  let width ← wantedNumber name options 'w' "invalid number of bytes to compare"
  match operands with
  | _ :: _ :: extra :: _ =>
    misuse name (bytesOf "extra operand " ++ Quoting.word extra) 1
  | _ =>
    if has 'D' && has 'c' then
      misuse name (bytesOf "printing all duplicated lines and repeat counts is meaningless") 1
    let operand := operands.head?.getD (bytesOf "-")
    let (input, closes) ← match ← openOperand operand with
      | .ok r => pure r
      | .error e => do
        complainOf name (Quoting.whereNeeded operand) e
        exit 1
    -- The output is emptied before anything is read.
    let output ← match operands[1]?.filter (· != bytesOf "-") with
      | none => pure 1
      | some target =>
        match ← (Call.openFile target .truncating : Call _) with
        | .ok fd => pure fd
        | .error e => do
          complainOf name (Quoting.whereNeeded target) e
          exit 1
    let bytes ← match ← slurp input with
      | .ok s => pure s.bytes
      | .error e => do
        complainOf name (bytesOf "error reading " ++ Quoting.always operand) e
        exit 1
    if closes then (Call.close input : Call Unit)
    let style : UniqueStyle := ⟨fields.getD 0, skipped.getD 0, width, has 'i'⟩
    let ending : UInt8 := if has 'z' then 0 else 10
    let runs := (runsOf (fun a b => style.part a == style.part b)
      (recordTexts ending bytes)).filter (fun r =>
        (!(has 'd' || has 'D') || 1 < r.length) && (!has 'u' || r.length == 1))
    let shown := runs.flatMap (fun r =>
      if has 'D' then r
      else (r.take 1).map (fun line =>
        (if has 'c' then (padLeft 7 (Text.ofNat r.length)).bytes ++ [byte ' '] else []) ++ line))
    writeTo output (shown.flatMap (· ++ [ending]))
    if output != 1 then (Call.close output : Call Unit)
    return 0

end LineShell.Userland
