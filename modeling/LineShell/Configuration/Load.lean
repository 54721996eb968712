import LineShell.Configuration.Basic
import LineShell.Machine.World
/-!
# Loading the configuration

A missing file means the default settings. A file that cannot be read and one that is no valid
document are errors; at the start of the shell they are reported, and the defaults are used with
nothing of the file.
-/

namespace LineShell.Configuration

/-- Why a file gave no settings. -/
inductive LoadError where
  | unreadable (path : Bytes) (source : IoError)
  /-- The reason is the complaint about the document as it is shown. -/
  | invalid (path : Bytes) (reason : Text)
  deriving DecidableEq, Repr

namespace LoadError

/-- What was being done. -/
def message : LoadError → Text
  | unreadable path _ => Text.lit "cannot read " ++ path.text
  | invalid path _ => Text.lit "invalid config " ++ path.text

/-- What was being done, and the cause behind it. -/
def full : LoadError → Text
  | unreadable path source =>
    Text.lit "cannot read " ++ path.text ++ Text.lit ": " ++ source.message
  | invalid path reason => Text.lit "invalid config " ++ path.text ++ Text.lit ": " ++ reason

end LoadError

/-- The contents of a file, as bytes. -/
def readFile (path : Bytes) : Call (Except IoError Bytes) :=
  Call.withPath path fun path => do
    match ← Call.openFile path { OpenMode.reading with closeOnExec := true } with
    | .error e => return .error e
    | .ok fd =>
      let contents ← Call.peek fd
      Call.close fd
      return contents.map Stream.bytes

/-- The contents of a file, as text. -/
def readText (path : Bytes) : Call (Except IoError Text) := do
  match ← readFile path with
  | .error e => return .error e
  | .ok bytes =>
    match Text.Utf8.decode? bytes with
    | some t => return .ok t
    | none => return .error .notUtf8

/-- Loads the settings from a file. -/
def load (read : Toml.Reader) (path : Bytes) : Proc (Except LoadError Configuration) := do
  let base := standard (← Proc.directories) (← Proc.self).environment
  match ← Proc.call (readText path) with
  | .error e =>
    if e = .call .noEntry then return .ok base else return .error (.unreadable path e)
  | .ok t =>
    match ofText read base t with
    | .ok c => return .ok c
    | .error complaint => return .error (.invalid path (complaint.shown t))

/-- The settings at the start of the shell, from a given file or from the default one. An error is
reported on the error output. -/
def init (read : Toml.Reader) (path : Option Bytes) : Proc Configuration := do
  let directories ← Proc.directories
  let env := (← Proc.self).environment
  match ← load read (path.getD (defaultFile directories env)) with
  | .ok c => return c
  | .error e =>
    Proc.write 2 (Text.lit "bosh: " ++ e.full ++ Text.lit ", using defaults\n")
    return standard directories env

end LineShell.Configuration
