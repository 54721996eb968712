import LineShell.Userland.Editing.Reader
import LineShell.Userland.Editing.Run
/-!
# Editing streams

`sed` puts a script together from its options or its first operand, reads it, and runs it over the
lines of its operands.
-/

namespace LineShell.Userland

open Editing

/-- A part of a script: from an option or the first operand, or from a file with a name. -/
structure ScriptPart where
  file : Option Bytes
  text : Bytes

namespace ScriptPart

/-- The parts of a script in one. -/
def joined (parts : List ScriptPart) : Bytes := [10].intercalate (parts.map ScriptPart.text)

/-- Where a place of the joined script lies: in which part, whose number among the parts that are no
files is given, and where in the part, unless only the part is wanted. -/
def locate (partOnly : Bool) : Nat → Nat → List ScriptPart → Bytes
  | _, _, [] => []
  | number, place, part :: rest =>
    let number := if part.file.isNone then number + 1 else number
    -- The line feed behind a part belongs to it.
    if place ≤ part.text.length + 1 || rest.isEmpty then
      let place := min place part.text.length
      match part.file with
      | none =>
        bytesOf "-e expression #" ++ (Text.ofNat number).bytes ++ bytesOf ", char " ++
          (Text.ofNat (if partOnly then 0 else place)).bytes ++ bytesOf ": "
      | some file =>
        bytesOf "file " ++ file ++ bytesOf " line " ++
          (Text.ofNat ((part.text.take place).count 10 + 1)).bytes ++ bytesOf ": "
    else locate partOnly number (place - part.text.length - 1) rest

end ScriptPart

/-- The options of `sed`. The copy of an operand that is replaced has a name of its own; that part
of an option is taken away before options are read. Letters that no byte has stand for long names
alone. -/
def editingOptions : Options :=
  { flags := ['n', 'E', 'r', 's', 'z', 'i', 'u', 'π', 'δ', 'σ', 'φ']
    valued := ['e', 'f', 'l']
    long := [("quiet", 'n'), ("silent", 'n'), ("regexp-extended", 'E'), ("separate", 's'),
      ("null-data", 'z'), ("zero-terminated", 'z'), ("in-place", 'i'), ("unbuffered", 'u'),
      ("expression", 'e'), ("file", 'f'), ("line-length", 'l'), ("posix", 'π'),
      ("debug", 'δ'), ("sandbox", 'σ'), ("follow-symlinks", 'φ')] }

/-- A word without what is put behind the names of copies, and that if the word has one. -/
def withoutSuffix (word : Bytes) : Bytes × Option Bytes :=
  let long := bytesOf "--in-place="
  if long.isPrefixOf word then (bytesOf "--in-place", some (word.drop long.length))
  else if word.head? != some (byte '-') || (bytesOf "--").isPrefixOf word then (word, none)
  else
    let flags := word.drop 1 |>.takeWhile (fun b => (bytesOf "nErszu").contains b)
    if word[flags.length + 1]? == some (byte 'i') && flags.length + 2 < word.length then
      (word.take (flags.length + 2), some (word.drop (flags.length + 2)))
    else (word, none)

/-- The line about how `sed` is used. -/
def explainEditing (name : Bytes) : Run Unit :=
  err (bytesOf "Usage: " ++ name ++
    bytesOf " [OPTION]... \x7bscript-only-if-no-other-script\x7d [input-file]...\n")

/-- The part of a script that an option gives. -/
def scriptPart (name : Bytes) (o : OptionGiven) : Run ScriptPart := do
  if o.1 == 'e' then return ⟨none, o.2⟩
  else match ← readOperand o.2 with
    | .stream s =>
      return ⟨some o.2, if s.bytes.getLast? == some 10 then s.bytes.dropLast else s.bytes⟩
    | .notOpened e | .notRead e =>
      complainOf name (bytesOf "couldn't open file " ++ o.2) e
      exit 4

/-- Opens the files that a script writes to. -/
def openWritten (name : Bytes) : List Bytes → Run (List (Bytes × Nat × Bool))
  | [] => return []
  | path :: rest => do
    if path = bytesOf "/dev/stdout" then
      return (path, 1, false) :: (← openWritten name rest)
    else if path = bytesOf "/dev/stderr" then
      return (path, 2, false) :: (← openWritten name rest)
    else match ← (Call.openFile path .truncating : Call _) with
      | .ok fd => return (path, fd, false) :: (← openWritten name rest)
      | .error e =>
        complainOf name (bytesOf "couldn't open file " ++ path) e
        exit 4

/-- Edits streams. -/
def sed : Program := fun name args => do
  let words := args.map withoutSuffix
  let suffix := (words.filterMap Prod.snd).getLast?
  let (options, operands) ← match editingOptions.read true (words.map Prod.fst) with
    | .ok r => pure r
    | .error e =>
      complain name e.message
      explainEditing name
      exit 1
  let has := given options
  let parts ← (options.filter (fun o => o.1 == 'e' || o.1 == 'f')).mapM (scriptPart name)
  let (parts, operands) ← match parts, operands with
    | [], script :: rest => pure ([⟨none, script⟩], rest)
    | [], [] => do
      explainEditing name
      exit 1
    | parts, operands => pure (parts, operands)
  let script := ScriptPart.joined parts
  let (read, written) := readScript ⟨has 'E' || has 'r', false⟩ script
  let files ← openWritten name written.eraseDups
  match read with
  | .error (.noLabel label) =>
    complain name (bytesOf "can't find label for jump to `" ++ label ++ bytesOf "'")
    return 4
  | .error (.at_ fault place) =>
    complain name (ScriptPart.locate (fault = .openBlock) 0 place parts ++ fault.message)
    return 1
  | .ok commands =>
    let manner : Manner :=
      { quiet := has 'n' || (bytesOf "#n").isPrefixOf script
        separate := has 's' || has 'i'
        inPlace := if has 'i' then some (suffix.getD []) else none
        ending := if has 'z' then 0 else 10
        width := ((valueOf options 'l').map (fun w =>
          (Text.toNat? (Bytes.text w)).getD 0)).getD 70
        parts := (parts.filter (fun p => p.file.isNone)).length
        ranges := (commands.map (fun c =>
          if c.address.any (fun a => a.first == .line 0) then RangeState.active none
          else .idle)).toArray }
    let editor : Editor :=
      { space := ⟨[], true⟩, held := ⟨[], true⟩, line := 0, replaced := false
        ranges := manner.ranges
        waiting := [], lastSample := none
        operands := orInput operands
        pending := [], current := [], failed := false, taken := none
        output := [], lacksEnd := false, files, readers := [] }
    let edit : Edit Nat := do
      let code ← Edit.cycles manner commands.toArray 1000000000 false
      Edit.leaveOperand manner
      Edit.flush
      Edit.leaveInput
      return code
    let (code, _) ← StateT.run edit editor
    return code

end LineShell.Userland
