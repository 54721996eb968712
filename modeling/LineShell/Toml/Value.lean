import LineShell.Toml.Decimal
import LineShell.Toml.Fault
/-!
# Configuration values

The values that a configuration document can hold, and the statements it is made of: a key with a
value, the header of a table, and the header of one more table in an array. Points in time are told
apart from the rest; which they are is not kept. Values and statements carry the stretches that
complaints point at.
-/

namespace LineShell.Toml

/-- A value; the items of an array have their stretches. -/
inductive Value where
  | string (text : Text)
  | integer (n : Int)
  | decimal (d : Decimal)
  | boolean (b : Bool)
  | dateTime
  | array (items : List (Span × Value))
  | table (fields : List (Text × Value))
  deriving Repr, Inhabited

/-- The name of the kind of a value. -/
def Value.kind : Value → Text
  | string _ => Text.lit "string"
  | integer _ => Text.lit "integer"
  | decimal _ => Text.lit "float"
  | boolean _ => Text.lit "boolean"
  | dateTime => Text.lit "datetime"
  | array _ => Text.lit "array"
  | table _ => Text.lit "inline table"

/-- What a statement says. -/
inductive Content where
  | assignment (value : Value)
  | tableHeader
  | arrayHeader
  deriving Repr, Inhabited

/-- One statement of a document. -/
structure Statement where
  key : Key
  content : Content
  /-- The first part of the key. -/
  firstPart : Span
  /-- The value, or the header in its brackets. -/
  main : Span
  deriving Repr, Inhabited

end LineShell.Toml
