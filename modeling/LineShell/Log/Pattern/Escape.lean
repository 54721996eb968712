import LineShell.Text.Blank
/-!
# Switches and escapes of patterns

Within a pattern switches are set and reset: whether case counts, whether blanks between the parts
do, and whether characters or bytes are matched (`Switches`). A backslash begins an escape, which is
a character, a set of characters or a place between two (`Escaped`).

What would need the Unicode tables of classes and of letter case is refused: `\d`, `\w`, `\s`, `\b`
and `\p`, and characters while case is ignored. With the switch `u` off they are ASCII classes and
allowed, but then nothing may match a byte that is no character.
-/

namespace LineShell.Log.Pattern

/-- The switches that bear on the form of a pattern. -/
structure Switches where
  ignoreCase : Bool
  /-- Blanks and comments between the parts are left out. -/
  spaced : Bool
  unicode : Bool
  deriving DecidableEq, Repr

namespace Switches

/-- The switches at the beginning. -/
def standard : Switches := ⟨false, false, true⟩

/-- Sets a switch by its letter. Three letters change what matches but not what is a pattern. -/
def set? (s : Switches) (letter : Char) (on : Bool) : Option Switches :=
  match letter with
  | 'i' => some { s with ignoreCase := on }
  | 'x' => some { s with spaced := on }
  | 'u' => some { s with unicode := on }
  | 'm' | 's' | 'U' | 'R' => some s
  | _ => none

/-- Whether a character may stand for itself. -/
def admitsLetter (s : Switches) : Bool := !(s.ignoreCase && s.unicode)

/-- Whether a character may be in a class. Without Unicode a class holds bytes. -/
def admitsMember (s : Switches) (c : Char) : Bool :=
  s.admitsLetter && (s.unicode || c.toNat < 0x80)

end Switches

/-- Leaves out blanks and comments where they do not count. -/
def skipSpace (s : Switches) : Nat → Text → Text
  | 0, t => t
  | fuel + 1, t =>
    match t with
    | c :: rest =>
      if !s.spaced then t
      else if Text.isBlank c then skipSpace s fuel rest
      else if c == '#' then skipSpace s fuel ((rest.dropWhile (· != '\n')).drop 1)
      else t
    | [] => []

/-- Leaves out all blanks and comments from here on. -/
def skip (s : Switches) (t : Text) : Text := skipSpace s t.length t

/-- What an escape stands for. -/
inductive Escaped where
  | char (c : Char)
  | set
  | place
  deriving DecidableEq, Repr

/-- The value of a hexadecimal digit. -/
def hexValue? (c : Char) : Option Nat :=
  if c.isDigit then some (c.toNat - 48)
  else if 'a' ≤ c && c ≤ 'f' then some (c.toNat - 87)
  else if 'A' ≤ c && c ≤ 'F' then some (c.toNat - 55)
  else none

/-- Reads exactly so many hexadecimal digits behind a value. Where blanks do not count they may
stand before each digit. -/
def hex? (s : Switches) : Nat → Nat → Text → Option (Nat × Text)
  | 0, value, t => some (value, t)
  | digits + 1, value, t =>
    match skip s t with
    | [] => none
    | c :: rest => (hexValue? c).bind fun d => hex? s digits (16 * value + d) rest

/-- A character by its number; without Unicode a number of two digits is a byte. -/
def numbered? (s : Switches) (digits : Nat) (t : Text) : Option (Escaped × Text) :=
  match hex? s digits 0 t with
  | some (n, rest) =>
    if !n.isValidChar || (digits = 2 && !s.unicode && 0x7F < n) then none
    else some (.char (Char.ofNat n), rest)
  | none => none

/-- The escape behind a backslash. -/
def escape? (s : Switches) : Text → Option (Escaped × Text)
  | [] => none
  | 'x' :: rest => numbered? s 2 rest
  | 'u' :: rest => numbered? s 4 rest
  | 'U' :: rest => numbered? s 8 rest
  | 'a' :: rest => some (.char '\x07', rest)
  | 'f' :: rest => some (.char '\x0c', rest)
  | 't' :: rest => some (.char '\t', rest)
  | 'n' :: rest => some (.char '\n', rest)
  | 'r' :: rest => some (.char '\r', rest)
  | 'v' :: rest => some (.char '\x0b', rest)
  | 'A' :: rest | 'z' :: rest => some (.place, rest)
  | c :: rest =>
    if ['d', 's', 'w'].contains c then if s.unicode then none else some (.set, rest)
    else if ['b', 'B', '<', '>'].contains c then if s.unicode then none else some (.place, rest)
    else if c.toNat < 0x80 && !c.isAlphanum then some (.char c, rest)
    else none

end LineShell.Log.Pattern
