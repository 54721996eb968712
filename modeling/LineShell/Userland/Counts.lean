import LineShell.Userland.Basic
/-!
# Counting

`wc`.
-/

namespace LineShell.Userland

/-- The counts of one file. -/
structure Counts where
  lines : Nat
  words : Nat
  chars : Nat
  bytes : Nat
  longest : Nat

namespace Counts

/-- No counts. -/
def zero : Counts := ⟨0, 0, 0, 0, 0⟩

/-- Counts of two files together. -/
def add (a b : Counts) : Counts :=
  ⟨a.lines + b.lines, a.words + b.words, a.chars + b.chars, a.bytes + b.bytes,
    max a.longest b.longest⟩

/-- The counts of some bytes. -/
def of (bytes : Bytes) : Counts :=
  let printing := fun (line : Bytes) => (line.filter Quoting.prints).length
  { lines := bytes.count 10
    words := (bytes.foldl (fun (s : Nat × Bool) b =>
      if isSpace b then (s.1, false)
      else if s.2 then s
      else if Quoting.prints b || 0x80 ≤ b then (s.1 + 1, true) else s) (0, false)).1
    chars := bytes.length
    bytes := bytes.length
    longest := (linesOf bytes).foldl (fun n line => max n (printing line)) 0 }

/-- The columns that are shown. -/
def columns (c : Counts) (options : List OptionGiven) : List Nat :=
  let has := given options
  let all := !options.any (fun o => ['l', 'w', 'm', 'c', 'L'].contains o.1)
  (if all || has 'l' then [c.lines] else []) ++ (if all || has 'w' then [c.words] else []) ++
    (if has 'm' then [c.chars] else []) ++ (if all || has 'c' then [c.bytes] else []) ++
    (if has 'L' then [c.longest] else [])

/-- One line of the report. -/
def report (c : Counts) (options : List OptionGiven) (width : Nat) (file : Option Bytes) : Bytes :=
  (Text.join [' '] ((c.columns options).map (fun n => padLeft width (Text.ofNat n)))).bytes ++
    (match file with
      | some f => [byte ' '] ++ f
      | none => []) ++ [10]

end Counts

/-- The size of a regular file behind an operand; nothing for an operand of another kind. -/
def regularSize (operand : Option Bytes) : Run (Option (Option Nat)) := do
  let c ← (get : Call Context)
  let named := operand.filter (· != bytesOf "-")
  let kind : Option NodeKind := match named with
    | none => do
      let h ← Table.get? 0 c.self.descriptors
      match ← c.machine.description? h.description with
      | ⟨.node i, _, _, _, _⟩ => (c.machine.tree.node? i).map Node.kind
      | _ => some (.device .null)
    | some o =>
      match c.machine.tree.find true c.self.directory o with
      | .ok i => (c.machine.tree.node? i).map Node.kind
      | .error _ => none
  match kind with
  | none => return none
  | some (.file content) => return some (some content.length)
  | some _ => return some none

/-- The width of the columns: as wide as the sum of the sizes, and at least seven when some operand
is no regular file. One count of one file needs no width. -/
def countWidth (operands : List (Option Bytes)) (columns : Nat) : Run Nat := do
  if operands.length ≤ 1 && columns ≤ 1 then return 1
  else
    let sizes ← operands.mapM regularSize
    let known := sizes.filterMap id
    let total := (known.filterMap id).foldl (· + ·) 0
    let least := if known.any Option.isNone then 7 else 1
    return max least (Text.ofNat total).length

/-- The size of a page and of a block of a file. -/
def pageSize : Nat := 4096

/-- How many bytes are left in a regular file from a position on, told from its size alone. A size
that is no multiple of the page size is believed, and the position stays. Otherwise a part of the
file is passed over, counted from its beginning but taken from the position on, and the rest is
read. Returns the count and the position behind. -/
def bytesLeft (size position : Nat) : Nat × Nat :=
  if size % pageSize ≠ 0 then (size - position, position)
  else
    let passed := size - size % (pageSize + 1)
    if position < passed then
      (passed - position + (size - (position + passed)), max size (position + passed))
    else (size - position, max size position)

/-- Whether only bytes are counted. -/
def countsBytesOnly (options : List OptionGiven) : Bool :=
  (given options 'c' || given options 'm') && !options.any (fun o => ['l', 'w', 'L'].contains o.1)

/-- Counts what is behind a number. Bytes of a regular file are not read to be counted; zeros stand
for them. -/
def readCounted (options : List OptionGiven) (fd : Nat) : Run (Except Errno Stream) := do
  match countsBytesOnly options, ← fileBehind fd with
  | true, some (content, position) =>
    let (count, after) := bytesLeft content.length position
    moveTo fd after
    return .ok (.finite (List.replicate count 0))
  | _, _ => slurp fd

/-- Counts the operands and reports each. -/
def countOperands (name : Bytes) (options : List OptionGiven) (width : Nat) :
    Counts → List (Option Bytes) → Run (Counts × Bool)
  | total, [] => pure (total, true)
  | total, operand :: rest => do
    let shown := operand.getD (bytesOf "-")
    match ← readWith (readCounted options) shown with
    | .stream s =>
      let c := Counts.of s.bytes
      out (c.report options width operand)
      countOperands name options width (total.add c) rest
    | .notOpened e =>
      complainOf name (Quoting.whereNeeded shown) e
      let r ← countOperands name options width total rest
      return (r.1, false)
    | .notRead e =>
      complainOf name (Quoting.whereNeeded shown) e
      out (Counts.zero.report options width operand)
      let r ← countOperands name options width total rest
      return (r.1, false)

/-- Counts lines, words and bytes. -/
def wc : Program := fun name args => do
  let (options, operands) ← Options.get
    ⟨['l', 'w', 'm', 'c', 'L'], [],
      [("lines", 'l'), ("words", 'w'), ("chars", 'm'), ("bytes", 'c'), ("max-line-length", 'L')]⟩
    name args 1
  let operands := if operands.isEmpty then [none] else operands.map some
  let width ← countWidth operands (Counts.zero.columns options).length
  let (total, ok) ← countOperands name options width .zero operands
  if 1 < operands.length then out (total.report options width (some (bytesOf "total")))
  return codeOf ok

end LineShell.Userland
