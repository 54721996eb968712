import LineShell.Log.Filter
import LineShell.Text.Quoted
/-!
# Log records

One line of the log: the time, the level, the message and the fields as `name=value`. A field may
also be there for filters alone and not be written.
-/

namespace LineShell.Log

/-- A field of a record, with its value as it is written, if it is. -/
structure Field where
  name : Text
  value : Option Text
  deriving DecidableEq, Repr

/-- One record of the log. -/
structure Record where
  level : Level
  /-- The part of the shell that wrote it. -/
  source : Text
  message : Text
  fields : List Field
  deriving DecidableEq, Repr

namespace Record

/-- A field with its value as it is. -/
def field (name : String) (value : Text) : Field := ⟨name.toList, some value⟩

/-- A field with a count. -/
def count (name : String) (value : Nat) : Field := field name (Text.ofNat value)

/-- A field with a quoted text. -/
def quoted (name : String) (value : Text) : Field := field name (Text.Quoted.encode value)

/-- A field that is not written. -/
def silent (name : String) : Field := ⟨name.toList, none⟩

/-- The names of all fields; the message counts as one. -/
def fieldNames (r : Record) : List Text := Text.lit "message" :: r.fields.map Field.name

/-- Whether a filter shows a record. -/
def isShownBy (r : Record) (f : Filter) : Bool := f.shows r.source r.fieldNames r.level

/-- A field in the line of a record. -/
def written (f : Field) : Text :=
  match f.value with
  | some value => [' '] ++ f.name ++ ['='] ++ value
  | none => []

/-- The line of a record, with the line feed at its end. -/
def line (time : Text) (r : Record) : Text :=
  time ++ [' '] ++ r.level.label ++ [' '] ++ r.message ++
    r.fields.flatMap written ++ ['\n']

end Record

/-- Where records go: a descriptor, the filter before it, and the time that records bear. -/
structure Sink where
  filter : Filter
  descriptor : Nat
  time : Text
  deriving DecidableEq, Repr

end LineShell.Log
