import LineShell.Text.Unprintable
import LineShell.Text.Basic
/-!
# Quoted text

The form in which an error message shows an argument with odd characters: in double quotes, with
`\0 \t \n \r \" \\` written by their short names, every other character that would not show as
itself by its number `\u{…}`, and all else as it is.
-/

namespace LineShell.Text.Quoted

/-- A character by its number. -/
def byNumber (c : Char) : Text := ['\\', 'u', '\x7b'] ++ Text.hex c.toNat ++ ['\x7d']

/-- How one character is written between the quotes. -/
def escape (c : Char) : Text :=
  if c = '\x00' then ['\\', '0']
  else if c = '\t' then ['\\', 't']
  else if c = '\n' then ['\\', 'n']
  else if c = '\r' then ['\\', 'r']
  else if c = '"' then ['\\', '"']
  else if c = '\\' then ['\\', '\\']
  -- No table holds a printable character of ASCII.
  else if ' ' ≤ c && c ≤ '~' then [c]
  else if Unprintable.contains c.toNat then byNumber c
  else [c]

/-- The quoted form of a text. -/
def encode (t : Text) : Text := ['"'] ++ t.flatMap escape ++ ['"']

end LineShell.Text.Quoted
