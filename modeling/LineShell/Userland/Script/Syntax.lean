import LineShell.Userland.Basic
/-!
# Command scripts

The form of the scripts that the command interpreter runs: words that are put together from pieces,
redirections, and commands. A piece remembers whether it stood in quotes, since quotes decide later
what parts fields and what stands for file names.
-/

namespace LineShell.Userland.Script

/-- What a redirection with a target does. -/
inductive RedirectKind where
  | input
  | output
  /-- Writes even where files are protected. -/
  | forced
  | append
  | both
  | duplicateInput
  | duplicateOutput
  deriving DecidableEq, Repr

/-- What is done about a parameter that is missing. -/
inductive Fallback where
  /-- A word stands in for it. -/
  | instead
  /-- It gets the word as its value. -/
  | assigned
  /-- The word is the complaint about it. -/
  | refused
  /-- The word stands for it only if it is there. -/
  | onlyIfThere
  deriving DecidableEq, Repr

mutual

/-- A piece of a word. -/
inductive Piece where
  | literal (bytes : Bytes) (quoted : Bool)
  | parameter (name : Bytes) (use : Use) (quoted : Bool)
  | substitution (body : Command) (quoted : Bool)
  | arithmetic (expression : List Piece) (quoted : Bool)

/-- What is made of the value of a parameter. -/
inductive Use where
  | value
  | length
  /-- With `ifEmpty` an empty value counts as missing. -/
  | fallback (kind : Fallback) (ifEmpty : Bool) (word : List Piece)
  /-- The part at one end that a pattern describes is left out. -/
  | trim (atEnd longest : Bool) (pattern : List Piece)
  /-- No known use; found out when the word is used. -/
  | wrong

/-- A redirection. -/
inductive Redirection where
  | target (fd : Nat) (kind : RedirectKind) (word : List Piece)
  /-- The text is the input itself. -/
  | document (fd : Nat) (text : List Piece)

/-- A command. -/
inductive Command where
  | nothing
  | simple (line : Nat) (words : List (List Piece)) (redirections : List Redirection)
  | pipeline (first second : Command)
  | negated (c : Command)
  | both (first second : Command)
  | either (first second : Command)
  | sequence (first second : Command)
  | background (c : Command)
  | subshell (line : Nat) (body : Command) (redirections : List Redirection)
  | group (body : Command) (redirections : List Redirection)
  | branch (condition yes no : Command) (redirections : List Redirection)
  | loop (negative : Bool) (condition body : Command) (redirections : List Redirection)
  | forEach (line : Nat) (name : Bytes) (words : List (List Piece)) (body : Command)
      (redirections : List Redirection)
  | choice (line : Nat) (word : List Piece) (arms : List Arm) (redirections : List Redirection)
  | function (name : Bytes) (body : Command)

/-- An arm of a choice: the command runs if a pattern describes the word. -/
inductive Arm where
  | mk (patterns : List (List Piece)) (body : Command)

end

instance : Inhabited Piece := ⟨.literal [] false⟩

instance : Inhabited Command := ⟨.nothing⟩

/-- A word is a list of pieces. -/
abbrev Word := List Piece

/-- The patterns of an arm. -/
def Arm.patterns : Arm → List Word
  | .mk patterns _ => patterns

/-- The command of an arm. -/
def Arm.body : Arm → Command
  | .mk _ body => body

/-- Whether a byte can begin a variable name. -/
def startsName (b : UInt8) : Bool := (Char.ofNat b.toNat).isAlpha || b == byte '_'

/-- Whether a byte is a digit. -/
def isDigit (b : UInt8) : Bool := 48 ≤ b && b ≤ 57

/-- Whether a byte can stand in a variable name. -/
def inName (b : UInt8) : Bool := startsName b || isDigit b

/-- Whether bytes are the name of a variable. -/
def isName (name : Bytes) : Bool := name.head?.any startsName && name.all inName

/-- The parameters whose name is one sign. -/
def isSpecialName (b : UInt8) : Bool := (bytesOf "?$#@*!-").contains b

/-- The name and the value of an assignment word, if it is one. -/
def assignment? : Word → Option (Bytes × Word)
  | .literal bytes false :: rest =>
    let name := bytes.takeWhile (· != byte '=')
    if name.length < bytes.length && isName name then
      let value := bytes.drop (name.length + 1)
      some (name, if value.isEmpty then rest else .literal value false :: rest)
    else none
  | _ => none

end LineShell.Userland.Script
