import LineShell.Toml.Complaint
/-!
# Faults of a document

A reader takes a text from its first character on. It gives what it read together with the rest, or
a fault: where reading stopped, what was being read, what could have stood there, and what else is
wrong. A fault is *settled* when what was read before it can have no other form; after any other
fault `orElse` tries another form from the beginning.

What is closest to the fault says what was being read, so a `labelled` reader names itself only if
no reader inside it did.
-/

namespace LineShell.Toml

/-- A key with dots, as its parts. -/
abbrev Key := List Text

/-- What could have stood in a place. -/
inductive Expectation where
  /-- These very characters. -/
  | literal (t : Text)
  /-- What the words describe. -/
  | words (t : Text)
  deriving DecidableEq, Repr

/-- What is wrong with something that can be read. -/
inductive Cause where
  | outOfRange
  | tooGreat
  | tooSmall
  | tooDeep
  /-- A key that is there already, in a table with a name of its own or in any other. -/
  | duplicate (part : Text) (table : Option Key)
  /-- A key that leads through something that is no table. -/
  | noTable (key : Key) (kind : Text)
  deriving DecidableEq, Repr

/-- Why a text cannot be read. -/
structure Fault where
  /-- What follows the place of the fault. -/
  rest : Text
  label : Option Text := none
  expected : List Expectation := []
  cause : Option Cause := none
  settled : Bool := false
  deriving DecidableEq, Repr

/-- The wording of what could have stood in a place. -/
def Expectation.wording : Expectation → Text
  | literal t => ['\x60'] ++ t ++ ['\x60']
  | words t => t

/-- A key as it stands in a message. -/
def Key.wording (key : Key) : Text := Text.join ['.'] key

/-- The wording of what is wrong. -/
def Cause.wording : Cause → Text
  | outOfRange => Text.lit "value is out of range"
  | tooGreat => Text.lit "number too large to fit in target type"
  | tooSmall => Text.lit "number too small to fit in target type"
  | tooDeep => Text.lit "recursion limit exceeded"
  | duplicate part table =>
    let inTable := match table with
      | none => []
      | some [] => Text.lit " in document root"
      | some key => Text.lit " in table " ++ (Expectation.literal (Key.wording key)).wording
    Text.lit "duplicate key " ++ (Expectation.literal part).wording ++ inTable
  | noTable key kind =>
    Text.lit "dotted key " ++ (Expectation.literal (Key.wording key)).wording ++
      Text.lit " attempted to extend non-table type (" ++ kind ++ [')']

namespace Fault

/-- A fault of which only the place is known. -/
def atPlace (rest : Text) : Fault := { rest := rest }

/-- The wording of a fault: what it names, line by line. -/
def message (f : Fault) : Text :=
  let label := f.label.toList.map (Text.lit "invalid " ++ ·)
  let expected := if f.expected.isEmpty then []
    else [Text.lit "expected " ++ Text.join [',', ' '] (f.expected.map Expectation.wording)]
  Text.join ['\n'] (label ++ expected ++ f.cause.toList.map Cause.wording)

/-- A fault as a complaint about the character in its place. -/
def complaint (f : Fault) : Complaint := ⟨Span.ofCharacter f.rest, f.message⟩

end Fault

/-! ### Outcomes of readers -/

/-- Names what is being read. -/
def labelled {α : Type} (label : String) (r : Except Fault α) : Except Fault α :=
  r.mapError fun f => { f with label := f.label <|> some label.toList }

/-- Says what could have stood in the place of a fault. -/
def expecting {α : Type} (e : List Expectation) (r : Except Fault α) : Except Fault α :=
  r.mapError fun f => { f with expected := f.expected ++ e }

/-- Settles a fault. -/
def settled {α : Type} (r : Except Fault α) : Except Fault α :=
  r.mapError fun f => { f with settled := true }

/-- Another form for what cannot be read in the first one. -/
def orElse {α : Type} (r other : Except Fault α) : Except Fault α :=
  match r with
  | .ok a => .ok a
  | .error f => if f.settled then .error f else other

/-- What has no settled fault, or else a value instead. -/
def orValue {α : Type} (value : α) (r : Except Fault α) : Except Fault α := orElse r (.ok value)

end LineShell.Toml
