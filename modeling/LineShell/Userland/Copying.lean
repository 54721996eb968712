import LineShell.Userland.Basic
/-!
# Programs that copy

`cat`, `tac` and `tee`.
-/

namespace LineShell.Userland

/-- How `cat` shows a line. -/
structure CatStyle where
  number : Bool
  numberFilled : Bool
  squeeze : Bool
  ends : Bool
  tabs : Bool
  nonPrinting : Bool

/-- A byte in visible form. -/
def CatStyle.visible (style : CatStyle) (b : UInt8) : Bytes :=
  let low := fun (n : Nat) =>
    if n == 127 then bytesOf "^?"
    else if n < 32 then [byte '^', (n + 64).toUInt8] else [n.toUInt8]
  if b == 10 then [b]
  else if b == 9 then (if style.tabs then bytesOf "^I" else [b])
  else if !style.nonPrinting then [b]
  else if 128 ≤ b then bytesOf "M-" ++ low (b.toNat - 128)
  else low b.toNat

/-- One line as `cat` shows it, its number being `n`. -/
def CatStyle.line (style : CatStyle) (n : Nat) (line : Bytes) : Bytes :=
  let numbered := if style.numberFilled then line != [10] else style.number
  (if numbered then (padLeft 6 (Text.ofNat n)).bytes ++ [9] else []) ++
    line.flatMap (fun b => if b == 10 && style.ends then [byte '$', 10] else style.visible b)

/-- The lines that `cat` shows from the n-th on; `blanks` counts the blank lines right before. -/
def CatStyle.lines (style : CatStyle) : Nat → Nat → List Bytes → Bytes × Nat × Nat
  | n, blanks, [] => ([], n, blanks)
  | n, blanks, line :: rest =>
    let blank := line == [10]
    if style.squeeze && blank && 1 ≤ blanks then style.lines n (blanks + 1) rest
    else
      let counts := if style.numberFilled then !blank else true
      let r := style.lines (if counts then n + 1 else n) (if blank then blanks + 1 else 0) rest
      (style.line n line ++ r.1, r.2)

/-- Whether an operand is the very file that the output goes to, with something to read. -/
def isOutput (operand : Bytes) : Run Bool := do
  let c ← (get : Call Context)
  let node? := fun (fd : Nat) => do
    let h ← Table.get? fd c.self.descriptors
    c.machine.description? h.description
  match node? 1 with
  | some ⟨.node i, _, _, _, _⟩ =>
    if operand = bytesOf "-" then
      match node? 0 with
      | some ⟨.node j, offset, _, _, _⟩ =>
        match c.machine.tree.node? i with
        | some ⟨.file content, _⟩ => return i == j && offset < content.length
        | _ => return false
      | _ => return false
    else match c.machine.tree.find true c.self.directory operand with
      | .ok j =>
        match c.machine.tree.node? i with
        | some ⟨.file content, _⟩ => return i == j && 0 < content.length
        | _ => return false
      | .error _ => return false
  | _ => return false

/-- Copies the operands to the output. -/
def catOperands (name : Bytes) (style : CatStyle) (plain : Bool) :
    Nat → Nat → List Bytes → Run Bool
  | _, _, [] => pure true
  | n, blanks, operand :: rest => do
    if ← isOutput operand then
      complain name (Quoting.whereNeeded operand ++ bytesOf ": input file is output file")
      let _ ← catOperands name style plain n blanks rest
      return false
    else match ← readOperand operand with
      | .stream s =>
        if plain then
          outStream s
          catOperands name style plain n blanks rest
        else
          let (shown, n, blanks) := style.lines n blanks (rawLines s.bytes)
          outStream ⟨shown, s.cycle⟩
          catOperands name style plain n blanks rest
      | .notOpened e | .notRead e =>
        complainOf name (Quoting.whereNeeded operand) e
        let _ ← catOperands name style plain n blanks rest
        return false

/-- Copies files to the output. -/
def cat : Program := fun name args => do
  let (options, operands) ← Options.get
    ⟨['n', 'b', 's', 'E', 'T', 'v', 'A', 'e', 't', 'u'], [],
      [("number", 'n'), ("number-nonblank", 'b'), ("squeeze-blank", 's'), ("show-ends", 'E'),
        ("show-tabs", 'T'), ("show-nonprinting", 'v'), ("show-all", 'A')]⟩ name args 1
  let has := given options
  let style : CatStyle :=
    { number := has 'n', numberFilled := has 'b', squeeze := has 's',
      ends := has 'E' || has 'A' || has 'e', tabs := has 'T' || has 'A' || has 't',
      nonPrinting := has 'v' || has 'A' || has 'e' || has 't' }
  let plain := !options.any (fun o => o.1 != 'u')
  let ok ← catOperands name style plain 1 0 (orInput operands)
  return codeOf ok

/-- Reads a file from its end to its beginning, wherever its position was; the position is then
behind the block read last, which is the first of the file. Anything else is read to its end. -/
def slurpBackwards (fd : Nat) : Run (Except Errno Stream) := do
  match ← fileBehind fd with
  | none => slurp fd
  | some (content, _) =>
    moveTo fd (min content.length 8192)
    return .ok (.finite content)

/-- Copies files with their lines in reverse order. -/
def tac : Program := fun name args => do
  let (_, operands) ← Options.get ⟨[], [], []⟩ name args 1
  let read := fun operand => do
    -- A directory has a beginning to go back to, where nothing can be read.
    match ← readWith slurpBackwards operand with
    | .notRead .isDirectory => return .notRead .invalidArgument
    | r => return r
  let ok ← forOperands name
    ⟨fun o => bytesOf "failed to open " ++ Quoting.always o ++ bytesOf " for reading",
      fun o => Quoting.whereNeeded o ++ bytesOf ": read error"⟩ read
    (fun _ s => out (rawLines s.bytes).reverse.flatten) (orInput operands)
  return codeOf ok


/-! ### tee -/

/-- Opens the targets of `tee`; each number comes with its name. -/
def openTargets (name : Bytes) (mode : OpenMode) : List Bytes → Run (List (Nat × Bytes) × Bool)
  | [] => pure ([], true)
  | target :: rest => do
    match ← (Call.openFile target mode : Call _) with
    | .ok fd =>
      let r ← openTargets name mode rest
      return ((fd, target) :: r.1, r.2)
    | .error e =>
      complainOf name (Quoting.whereNeeded target) e
      let r ← openTargets name mode rest
      return (r.1, false)

/-- Copies the input to the output and to files. -/
def tee : Program := fun name args => do
  let (options, operands) ← Options.get
    ⟨['a', 'i', 'p'], [], [("append", 'a'), ("ignore-interrupts", 'i')]⟩ name args 1
  let mode := if given options 'a' then OpenMode.appending else OpenMode.truncating
  let (targets, ok) ← openTargets name mode operands
  match ← slurp 0 with
  | .error e =>
    complainOf name (bytesOf "read error") e
    return 1
  | .ok s =>
    let written ← targets.foldlM (fun ok t => do
      match ← (Call.write t.1 s.bytes : Call _) with
      | .ok () => return ok
      | .error e =>
        complainOf name (Quoting.whereNeeded t.2) e
        return false) ok
    outStream s
    return codeOf written

end LineShell.Userland
