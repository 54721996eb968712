import LineShell.Shell.Exec
import LineShell.Source.Basic
/-!
# Sessions

A session runs the configured startup lines and then the lines of a source, each by `Shell.exec`,
until one asks to exit, one replaces the shell, or the source ends. A failed line is reported on the
error output, and the next one is read. Lines of nothing but blanks are skipped.
-/

namespace LineShell.Session

/-- The error output. -/
abbrev stderr : Nat := 2

/-- Reports a failed line. -/
def report (introduction : Text) (message : Text) : Proc Unit :=
  Proc.write stderr (introduction ++ message ++ ['\n'])

/-- Runs one line; a failure is reported with an introduction. -/
def runLine (introduction : Text) (line : Text) : StateT Shell Proc Flow := do
  if Text.isAllBlank line then return .proceed
  else match ← (Shell.exec line).run with
    | .ok flow => return flow
    | .error e =>
      (report introduction e.message : Proc Unit)
      return .proceed

/-- What introduces the report of a failed startup line. -/
def startupIntroduction : Text := Text.lit "[X] Startup failed: "

/-- Runs lines in order until one does not proceed. -/
def runStartup : List Text → StateT Shell Proc Flow
  | [] => return .proceed
  | line :: rest => do
    match ← runLine startupIntroduction line with
    | .proceed => runStartup rest
    | flow => return flow

/-- Reads lines and runs them, at most `limit` of them. Returns what ended the loop, and the source
as it was left. -/
def repl : Nat → Source → StateT Shell Proc (Flow × Source)
  | 0, source => return (.proceed, source)
  | limit + 1, source => do
    match ← (source.next : Proc _) with
    | (.error e, source) =>
      (report (Text.lit "bosh: ") e.message : Proc Unit)
      return (.proceed, source)
    | (.ok .eof, source) => return (.proceed, source)
    | (.ok .interrupted, source) =>
      (Proc.log ⟨.debug, Text.lit "bosh", Text.lit "line discarded by interrupt", []⟩ : Proc Unit)
      repl limit source
    | (.ok (.text line), source) =>
      match ← runLine [] line with
      | .proceed => repl limit source
      | flow => return (flow, source)

end LineShell.Session
