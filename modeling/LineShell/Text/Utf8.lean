import LineShell.Text.Basic
/-!
# UTF-8

Writing text as bytes, and reading bytes as text in two ways: `decode?` accepts exactly the
well-formed sequences, `decode` accepts all bytes and puts one U+FFFD for each *maximal invalid
part*, the longest run of bytes that begins some well-formed character but is not one, or a single
byte that begins none.

Both readings run one machine over the bytes, `Pending.step`. Between characters it is `idle`;
inside one it holds the value so far, the number of bytes still to come and the range that the next
byte must lie in. The range excludes overlong forms, surrogates and values above U+10FFFF at the
second byte already, which is where a maximal invalid part ends.
-/

namespace LineShell.Text.Utf8

/-- The bytes of one character. -/
def encodeChar (c : Char) : Bytes :=
  let n := c.toNat
  if n < 0x80 then [n.toUInt8]
  else if n < 0x800 then [(0xC0 + n / 0x40).toUInt8, (0x80 + n % 0x40).toUInt8]
  else if n < 0x10000 then
    [(0xE0 + n / 0x1000).toUInt8, (0x80 + n / 0x40 % 0x40).toUInt8, (0x80 + n % 0x40).toUInt8]
  else
    [(0xF0 + n / 0x40000).toUInt8, (0x80 + n / 0x1000 % 0x40).toUInt8,
      (0x80 + n / 0x40 % 0x40).toUInt8, (0x80 + n % 0x40).toUInt8]

/-- The bytes of a text. -/
def encode (t : Text) : Bytes := t.flatMap encodeChar

/-- How many bytes a text takes. -/
def size (t : Text) : Nat := (encode t).length

/-- What the reading machine remembers between two bytes. -/
inductive Pending where
  /-- Between two characters. -/
  | idle
  /-- Inside a character: its value so far, how many bytes follow, and the range of the next. -/
  | inside (value more low high : Nat)
  deriving DecidableEq, Repr

/-- What one byte brings: characters, and the parts that were no character, in order. -/
inductive Found where
  | char (c : Char)
  | invalid
  deriving DecidableEq, Repr

namespace Pending

/-- A byte between characters. -/
def start (b : UInt8) : List Found × Pending :=
  let n := b.toNat
  if n < 0x80 then ([.char (Char.ofNat n)], idle)
  else if n < 0xC2 then ([.invalid], idle)
  else if n < 0xE0 then ([], inside (n - 0xC0) 1 0x80 0xBF)
  else if n == 0xE0 then ([], inside 0 2 0xA0 0xBF)
  else if n == 0xED then ([], inside 0xD 2 0x80 0x9F)
  else if n < 0xF0 then ([], inside (n - 0xE0) 2 0x80 0xBF)
  else if n == 0xF0 then ([], inside 0 3 0x90 0xBF)
  else if n < 0xF4 then ([], inside (n - 0xF0) 3 0x80 0xBF)
  else if n == 0xF4 then ([], inside 4 3 0x80 0x8F)
  else ([.invalid], idle)

/-- One byte more. A byte out of range ends the character as invalid and is read anew. -/
def step (s : Pending) (b : UInt8) : List Found × Pending :=
  match s with
  | idle => start b
  | inside value more low high =>
    if low ≤ b.toNat && b.toNat ≤ high then
      let value := value * 0x40 + (b.toNat - 0x80)
      if more ≤ 1 then ([.char (Char.ofNat value)], idle)
      else ([], inside value (more - 1) 0x80 0xBF)
    else
      -- The byte may itself begin a character.
      let (found, s) := start b
      (.invalid :: found, s)

/-- The end of the bytes: a character that was begun is invalid. -/
def finish : Pending → List Found
  | idle => []
  | inside .. => [.invalid]

end Pending

/-- Everything found in the bytes, from a given state, the last found first. -/
def scanRev (found : List Found) (s : Pending) : Bytes → List Found
  | [] => s.finish ++ found
  | b :: rest =>
    let r := s.step b
    scanRev (r.1.reverse ++ found) r.2 rest

/-- Everything found in the bytes, in order. -/
def scan (bytes : Bytes) : List Found := (scanRev [] .idle bytes).reverse

/-- The character that stands for an invalid part. -/
def replacement : Char := Char.ofNat 0xFFFD

/-- What is shown for a found part. -/
def Found.show : Found → Char
  | .char c => c
  | .invalid => replacement

/-- The text of the bytes, each maximal invalid part shown as U+FFFD. -/
def decode (bytes : Bytes) : Text := (scan bytes).map Found.show

/-- The text of the bytes, nothing if some part is invalid. -/
def decode? (bytes : Bytes) : Option Text :=
  let found := scan bytes
  if found.contains .invalid then none else some (found.map Found.show)

end LineShell.Text.Utf8

namespace LineShell

/-- The bytes of a text. -/
abbrev Text.bytes (t : Text) : Bytes := Text.Utf8.encode t

/-- The bytes of a string literal. -/
abbrev bytesOf (s : String) : Bytes := Text.Utf8.encode s.toList

/-- The text of the bytes, each maximal invalid part shown as U+FFFD. -/
abbrev Bytes.text (b : Bytes) : Text := Text.Utf8.decode b

end LineShell
