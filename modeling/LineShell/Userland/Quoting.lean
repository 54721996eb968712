import LineShell.Text.Utf8
/-!
# Names in the messages of programs

Programs show a file name so that it could be typed again: as it is when it has no odd bytes, else
in single quotes, and with bytes that do not print written by number between `$'` and `'`. A name
whose only oddity is a single quote is shown in double quotes.
-/

namespace LineShell.Userland

/-- The code of an ASCII character. -/
abbrev byte (c : Char) : UInt8 := c.toNat.toUInt8

namespace Quoting

/-- Whether a byte prints. -/
def prints (b : UInt8) : Bool := 0x20 ≤ b && b < 0x7F

/-- Bytes that always need quotes. -/
def special : Bytes := bytesOf " !\"$&()*;<=>?[^`|\\'"

/-- Whether the byte at a position needs quotes; the name has the given length. -/
def needsQuotes (length position : Nat) (b : UInt8) : Bool :=
  !prints b || special.contains b ||
    ((b == byte '#' || b == byte '~') && position == 0) ||
    ((b == 0x7b || b == 0x7d) && length == 1)

/-- Bytes that may stand in double quotes beside a single quote. -/
def plainInDouble (position : Nat) (b : UInt8) : Bool :=
  (Char.ofNat b.toNat).isAlphanum || (bytesOf "%+,-./:]_'@ ").contains b ||
    ((b == byte '#' || b == byte '~') && position == 0)

/-- The escape of a byte that does not print. -/
def escape (b : UInt8) : Bytes :=
  match b.toNat with
  | 7 => bytesOf "\\a"
  | 8 => bytesOf "\\b"
  | 9 => bytesOf "\\t"
  | 10 => bytesOf "\\n"
  | 11 => bytesOf "\\v"
  | 12 => bytesOf "\\f"
  | 13 => bytesOf "\\r"
  | n => [byte '\\', (48 + n / 64).toUInt8, (48 + n / 8 % 8).toUInt8, (48 + n % 8).toUInt8]

/-- The bytes of a name between single quotes; `inEscapes` says that a run of escapes is open. -/
def quotedBody (inEscapes : Bool) : Bytes → Bytes
  | [] => []
  | b :: rest =>
    if !prints b then
      (if inEscapes then [] else bytesOf "'$'") ++ escape b ++ quotedBody true rest
    else if b == byte '\'' then bytesOf "'\\''" ++ quotedBody false rest
    else (if inEscapes then bytesOf "''" else []) ++ [b] ++ quotedBody false rest

/-- A name in quotes. -/
def always (name : Bytes) : Bytes :=
  let positions := name.zipIdx
  if name.contains (byte '\'') &&
      positions.all (fun e => plainInDouble e.2 e.1) then
    [byte '"'] ++ name ++ [byte '"']
  else [byte '\''] ++ quotedBody false name ++ [byte '\'']

/-- A name in quotes only where it needs them. -/
def whereNeeded (name : Bytes) : Bytes :=
  if name.isEmpty || name.zipIdx.any (fun e => needsQuotes name.length e.2 e.1) then always name
  else name

/-- A word in plain single quotes, with backslashes before quotes and backslashes. -/
def word (w : Bytes) : Bytes :=
  [byte '\''] ++ w.flatMap (fun b =>
    if b == byte '\'' || b == byte '\\' then [byte '\\', b]
    else if prints b then [b] else escape b) ++ [byte '\'']

end Quoting

end LineShell.Userland
