import LineShell.Text.RawLines
import LineShell.Text.Utf8
/-!
# The lines of a script

A script is read one line at a time through a buffer. A line ends at a line feed; the last one may
lack it. The line is decoded on its own, and carriage returns at its end are dropped.

`takeLine` puts one raw line together from what a *refill* brings, in any monad, so that the same
reader runs over bytes at hand (`Reader`) and over a descriptor of a process. A refill that brings
nothing is the end.
-/

namespace LineShell

/-- One read from a source of lines. -/
inductive Line where
  | text (t : Text)
  /-- The line was given up at the terminal. -/
  | interrupted
  /-- The source is exhausted. -/
  | eof
  deriving DecidableEq, Repr

namespace ScriptLines

/-- The text of a raw line: line feeds and carriage returns at its end are dropped. -/
def lineText (raw : Bytes) : Text :=
  Text.dropEndWhile (fun c => c == '\n' || c == '\r') (Bytes.text raw)

/-- What a raw line is to a reader: no byte at all is the end. -/
def ofRaw (raw : Bytes) : Line := if raw.isEmpty then .eof else .text (lineText raw)

/-- The bytes up to and with the first line feed, and what stands behind it, nothing when there is
no line feed. -/
def cutLine : Bytes → Bytes × Option Bytes
  | [] => ([], none)
  | b :: bytes =>
    if b = lineFeed then ([b], some bytes)
    else ((b :: (cutLine bytes).1), (cutLine bytes).2)

/-- Puts the raw bytes up to and with the next line feed, or up to the end, behind those that were
`taken`; and says what is left in the buffer. At most `fuel` refills are made. -/
def takeLine {m : Type → Type} [Monad m] {ε : Type} (refill : m (Except ε Bytes)) :
    Nat → Bytes → Bytes → m (Except ε Bytes × Bytes)
  | 0, taken, buffered => pure (.ok taken, buffered)
  | fuel + 1, taken, buffered =>
    match cutLine buffered with
    | (line, some rest) => pure (.ok (taken ++ line), rest)
    | (line, none) => do
      match ← refill with
      | .error e => pure (.error e, [])
      | .ok [] => pure (.ok (taken ++ line), [])
      | .ok bytes => takeLine refill fuel (taken ++ line) bytes

theorem cutLine_of_feed {line : Bytes} (h : lineFeed ∉ line) (rest : Bytes) :
    cutLine (line ++ lineFeed :: rest) = (line ++ [lineFeed], some rest) := by
  induction line with
  | nil => simp [cutLine]
  | cons b line ih =>
    simp only [List.mem_cons, not_or] at h
    simp [cutLine, Ne.symm h.1, ih h.2]

theorem cutLine_of_noFeed {bytes : Bytes} (h : lineFeed ∉ bytes) :
    cutLine bytes = (bytes, none) := by
  induction bytes with
  | nil => rfl
  | cons b bytes ih =>
    simp only [List.mem_cons, not_or] at h
    simp [cutLine, Ne.symm h.1, ih h.2]

end ScriptLines

/-- A reader over bytes at hand: how much one refill brings at most, what is buffered, and what is
still behind the buffer. -/
structure Reader where
  capacity : Nat
  buffered : Bytes
  unread : Bytes
  deriving DecidableEq, Repr

namespace Reader

/-- A reader that has not begun. -/
def ofBytes (capacity : Nat) (bytes : Bytes) : Reader := ⟨capacity, [], bytes⟩

/-- Takes the next bytes, at least one while there are some. So a capacity of nothing counts as one:
a reader without any room would be at its end at once, whatever is unread, and there is none. -/
def refill (capacity : Nat) : StateM Bytes (Except Empty Bytes) := do
  let unread ← get
  set (unread.drop (max capacity 1))
  pure (.ok (unread.take (max capacity 1)))

/-- The next line. Each refill but the last makes the unread part shorter, so there are enough. -/
def next (r : Reader) : Line × Reader :=
  match (ScriptLines.takeLine (refill r.capacity) (r.unread.length + 2) [] r.buffered).run
      r.unread with
  | ((.ok raw, buffered), unread) =>
    (ScriptLines.ofRaw raw, { r with buffered := buffered, unread := unread })

end Reader

end LineShell
