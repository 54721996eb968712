import LineShell.Configuration.Load
import LineShell.Text.RawLines
/-!
# The history of entered lines

At most so many entries as the capacity says, the oldest first. The history may have a file, one
entry a line; a line feed inside an entry is written as `<\n>`. Entries come from the file at the
start, and those entered since go into it at the end (`sync`).

* `History.save` leaves out empty entries and repetitions of the last one; `save_length` says that
  the capacity is kept.
* `merged` says which entries of the file remain beside the own ones: the last ones, if there is no
  room for all.
-/

namespace LineShell

/-- Lines that were entered. -/
structure History where
  capacity : Nat
  /-- The oldest entry first. -/
  entries : List Text
  /-- How many entries, from the first on, are in the file already. -/
  onDisk : Nat
  file : Option Bytes
  deriving DecidableEq, Repr

namespace History

/-- The written form of a line feed inside an entry. -/
def feedMark : Text := Text.lit "<\\n>"

/-- An entry as the file holds it. -/
def encodeEntry (entry : Text) : Text := entry.flatMap (fun c => if c = '\n' then feedMark else [c])

/-- An entry from its written form. -/
def decodeEntry : Text → Text
  | '<' :: '\\' :: 'n' :: '>' :: rest => '\n' :: decodeEntry rest
  | c :: rest => c :: decodeEntry rest
  | [] => []

/-- A history without a file. -/
def unkept : History := ⟨1000, [], 0, none⟩

/-- Enters a line. -/
def save (h : History) (line : Text) : History :=
  if line.isEmpty || h.capacity = 0 || h.entries.getLast? = some line then h
  else if h.entries.length = h.capacity then
    { h with entries := h.entries.drop 1 ++ [line], onDisk := h.onDisk - 1 }
  else { h with entries := h.entries ++ [line] }

/-- The entries that are not in the file yet. -/
def own (h : History) : List Text := h.entries.drop h.onDisk

/-- The entries of the file that remain beside the own ones, and whether some had to go. -/
def merged (capacity : Nat) (fromFile own : List Text) : List Text × Bool :=
  -- Own entries are at most as many as the capacity, so the room for others is a difference.
  if capacity < fromFile.length + own.length then
    (fromFile.drop (fromFile.length - (capacity - own.length)), true)
  else (fromFile, false)

/-- A line without its end: a line feed, or a carriage return and a line feed. -/
def withoutEnd (line : Bytes) : Bytes :=
  if line.getLast? = some lineFeed then
    if line.dropLast.getLast? = some 13 then line.dropLast.dropLast else line.dropLast
  else line

/-- The entries of a file; all of it must be text. -/
def fileEntries? (bytes : Bytes) : Option (List Text) :=
  (rawLines bytes).mapM (fun line => (Text.Utf8.decode? (withoutEnd line)).map decodeEntry)

/-- Entries as the file holds them. -/
def fileText (entries : List Text) : Bytes :=
  Text.bytes (entries.flatMap (fun e => encodeEntry e ++ ['\n']))

/-- The contents of the file, which is made if it is not there, and the directories above it. -/
def openFile (path : Bytes) : Call (Except IoError Bytes) := do
  match ← Call.withPath ((Path.parent? path).getD []) Call.makeDirectories with
  | .error e => return .error e
  | .ok () =>
    Call.withPath path fun path => do
      match ← Call.openFile path ⟨true, true, true, false, false, true⟩ with
      | .error e => return .error e
      | .ok fd =>
        let contents ← Call.peek fd
        Call.close fd
        return contents.map Stream.bytes

/-- Writes entries to the file: in place of all that is there, or behind it. -/
def writeFile (path : Bytes) (replace : Bool) (bytes : Bytes) : Call Unit := do
  match ← Call.openFile path (if replace then .truncating else .appending) with
  | .error _ => pure ()
  | .ok fd =>
    let _ ← Call.write fd bytes
    Call.close fd

/-- Brings history and file together. -/
def sync (h : History) : Call (Except IoError History) := do
  match h.file with
  | none => return .ok h
  | some path =>
    match ← openFile path with
    | .error e => return .error e
    | .ok bytes =>
      match fileEntries? bytes with
      | none => return .error .notUtf8
      | some fromFile =>
        let (kept, replace) := merged h.capacity fromFile h.own
        writeFile path replace (fileText (if replace then kept ++ h.own else h.own))
        let entries := kept ++ h.own
        return .ok { h with entries := entries, onDisk := entries.length }

/-- The history with a file, or without one when the file cannot be used, which the log tells. -/
def start (capacity : Nat) (path : Bytes) : Proc History := do
  match ← Proc.call (sync ⟨capacity, [], 0, some path⟩) with
  | .ok h => return h
  | .error e =>
    Proc.log ⟨.warn, Text.lit "bosh::input",
      Text.lit "history disabled: I/O error: " ++ e.message, []⟩
    return unkept

/-- At the end the entries of the session go to the file. -/
def finish (h : History) : Proc Unit := do
  let _ ← Proc.call (sync h)

theorem save_length {h : History} (hc : h.entries.length ≤ h.capacity) (line : Text) :
    (h.save line).entries.length ≤ h.capacity := by
  unfold save
  split
  · exact hc
  · split
    · rename_i h1 h2
      simp only [List.length_append, List.length_drop, List.length_singleton]
      simp only [Bool.or_eq_true, decide_eq_true_eq, not_or] at h1
      omega
    · simp only [List.length_append, List.length_singleton]
      omega

end History

end LineShell
