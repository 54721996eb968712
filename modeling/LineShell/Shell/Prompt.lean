import LineShell.Shell.Basic
/-!
# The prompt

A configured prompt is shown as it is. Otherwise the prompt names the user and the working
directory, in bold green and bold blue; a user that is missing or not text, and a directory that
cannot be named, are shown as empty.
-/

namespace LineShell.Prompt

/-- The plain form: user and directory. -/
def text (user cwd : Text) : Text := user ++ Text.lit "@:" ++ cwd ++ Text.lit "$ "

/-- A text in bold and a colour of the terminal. -/
def bold (colour : Nat) (t : Text) : Text :=
  Text.lit "\x1b[1;" ++ Text.ofNat colour ++ ['m'] ++ t ++ Text.lit "\x1b[0m"

/-- Green. -/
def green : Nat := 32

/-- Blue. -/
def blue : Nat := 34

/-- The five parts of a prompt. -/
structure Parts where
  left : Text
  right : Text
  indicator : Text
  multiline : Text
  search : Text
  deriving DecidableEq, Repr

/-- The left part. -/
def left (configured : Option Text) : Proc Text := do
  match configured with
  | some prompt => return prompt
  | none =>
    let user := (Environment.text? (← Proc.self).environment (Text.lit "USER")).getD []
    let cwd := match ← Proc.workingDirectory with
      | .ok cwd => Bytes.text cwd
      | .error _ => []
    return text (bold green user) (bold blue cwd)

/-- All parts; only the left one and the mark of a history search are not empty. -/
def parts (configured : Option Text) : Proc Parts := do
  return ⟨← left configured, [], [], [], Text.lit "(search) "⟩

end LineShell.Prompt
