import LineShell.Text.Utf8
/-!
# Paths

A path is bytes, and need not be text; slashes part its components. A slash at the end asks for a
directory, which is the same as one more component `.`.

* `Path.components` are the steps of a walk.
* `Path.join` puts a path behind a directory; an absolute path replaces the directory.
* `Path.parent?` leaves out the last component.
-/

namespace LineShell.Path

/-- The greatest number of bytes in one name. -/
def nameLimit : Nat := 255

/-- The greatest number of bytes in a path. -/
def pathLimit : Nat := 4095

/-- The greatest number of links followed on one walk. -/
def linkLimit : Nat := 40

/-- What parts the components of a path. -/
def slash : UInt8 := 0x2f

/-- The name of a directory in itself. -/
def dot : Bytes := [0x2e]

/-- The name of the directory above in a directory. -/
def dots : Bytes := [0x2e, 0x2e]

/-- Whether a path starts at the root. -/
def isAbsolute (path : Bytes) : Bool := path.head? == some slash

/-- Whether a path ends in a slash. -/
def endsInSlash (path : Bytes) : Bool := path.getLast? == some slash

/-- A path without the slashes at its end; a path of nothing but slashes keeps them. -/
def trimmed (path : Bytes) : Bytes :=
  if path.all (· == slash) then path else Bytes.dropEndWhile (· == slash) path

/-- The names between the slashes. -/
def names (path : Bytes) : List Bytes := (Bytes.pieces slash path).filter (fun n => !n.isEmpty)

/-- The steps of a walk along a path. -/
def components (path : Bytes) : List Bytes :=
  names path ++ (if endsInSlash path then [dot] else [])

/-- A path behind a directory, with one slash between them. -/
def join (directory path : Bytes) : Bytes :=
  if isAbsolute path || directory.isEmpty then path
  else if endsInSlash directory then directory ++ path
  else directory ++ slash :: path

/-- The path without its last component; a root and an empty path have no parent. -/
def parent? (path : Bytes) : Option Bytes :=
  let significant := (names path).filter (· != dot)
  let leadingDot := (names path).head? == some dot && !isAbsolute path
  let all := if leadingDot then dot :: significant else significant
  match all.reverse with
  | [] => none
  | _ :: before =>
    let dir := Bytes.join [slash] before.reverse
    some (if isAbsolute path then slash :: dir else dir)

/-- The last component. -/
def base (path : Bytes) : Bytes :=
  (names path).getLast?.getD (if isAbsolute path then [slash] else [])

/-- Whether a path is short enough to be walked. -/
def isShort (path : Bytes) : Bool := path.length ≤ pathLimit

end LineShell.Path
