import LineShell.Log.Level
import LineShell.Log.Pattern
import LineShell.Text.Utf8
/-!
# Log directives

One directive of a log filter. It names a rank, a source, or both with an equals sign between them;
behind the source may stand a span in brackets, and in the span a field in braces, perhaps with a
pattern for its value: `source[span{field=pattern}]=rank`.

A directive is read character by character (`Reading.step`). Blanks around it are no part of what is
read, but its parts are cut out of the whole text at the byte positions counted without the blanks
in front. So blanks in front move every cut, and blanks behind belong to the last part; a cut that
falls inside a character is a fault of its own.
-/

namespace LineShell.Log

/-- A field that a directive asks for. -/
structure FieldMatch where
  name : Text
  /-- Whether the value matters too. -/
  valued : Bool
  deriving DecidableEq, Repr

/-- One directive: what comes from sources that begin with `source`, lies in `span` and has `field`
is shown up to a rank. What is missing restricts nothing. -/
structure Directive where
  source : Option Text
  span : Option Text
  field : Option FieldMatch
  rank : Nat
  deriving DecidableEq, Repr

/-- Why a text is no directive. -/
inductive Fault where
  | malformed
  /-- A part would begin or end inside a character. -/
  | splitCharacter
  deriving DecidableEq, Repr

namespace FieldMatch

/-- Whether a text is a number with a fraction or an exponent, or a special number, without its
sign. -/
def isFloat (t : Text) : Bool :=
  let lower := Text.toLowerAscii t
  let whole := lower.takeWhile Char.isDigit
  let (fraction, rest) := match lower.drop whole.length with
    | '.' :: rest => (rest.takeWhile Char.isDigit, rest.dropWhile Char.isDigit)
    | rest => ([], rest)
  let exponent := match rest with
    | [] => true
    | 'e' :: digits =>
      let digits :=
        if digits.head? == some '-' || digits.head? == some '+' then digits.drop 1 else digits
      (Text.toNat? digits).isSome
    | _ => false
  [Text.lit "inf", Text.lit "infinity", Text.lit "nan"].contains lower ||
    (!(whole ++ fraction).isEmpty && exponent)

/-- Whether a text can be the value of a field: a pattern, or a number. Only a number with a plus
sign before it is no pattern. -/
def isValue (t : Text) : Bool :=
  match t with
  | '+' :: number => isFloat number
  | _ => Pattern.isValid t

/-- Reads a field: its name, and its value up to a further equals sign. -/
def parse (t : Text) : Except Fault FieldMatch :=
  match Text.pieces (· == '=') t with
  | name :: value :: _ => if isValue value then .ok ⟨name, true⟩ else .error .malformed
  | _ => .ok ⟨t, false⟩

end FieldMatch

/-- The part of a text between two byte positions, if both lie between characters. -/
def cut (t : Text) (first last : Nat) : Except Fault Text :=
  let bytes := t.bytes
  if last < first || bytes.length < last then .error .splitCharacter
  else match Text.Utf8.decode? (bytes.take first),
      Text.Utf8.decode? ((bytes.take last).drop first) with
    | some _, some part => .ok part
    | _, _ => .error .splitCharacter

/-- The part of a directive that is being read, with the byte position where it begins. -/
inductive Reading where
  | start
  | word (first : Nat)
  | span (first : Nat)
  | field (first : Nat)
  /-- Behind the braces. -/
  | fields
  /-- Behind the brackets. -/
  | restriction
  | rank (first : Nat)
  deriving DecidableEq, Repr

namespace Directive

/-- Whether a character can begin a source. -/
def startsSource (c : Char) : Bool :=
  c == '-' || c == ':' || c == '_' || Text.Alphanumeric.contains c

/-- Reads the rank behind an equals sign; an empty one is the highest. -/
def rankBehind (word : Text) : Except Fault Nat :=
  if word.isEmpty then .ok Level.trace.rank
  else match Level.rank? word with
    | some rank => .ok rank
    | none => .error .malformed

/-- Reads one character of the text, the one at byte position `i`. -/
def step (t : Text) (s : Directive × Reading) (i : Nat) (c : Char) :
    Except Fault (Directive × Reading) := do
  let (d, reading) := s
  match reading with
  | .start =>
    if c == '[' then return (d, .span (i + 1))
    else if startsSource c then return (d, .word i)
    else throw .malformed
  | .word first =>
    if c == '=' then return ({ d with source := some (← cut t first i) }, .rank (i + 1))
    else if c == '[' then return ({ d with source := some (← cut t first i) }, .span (i + 1))
    else return s
  | .span first =>
    if c == ']' then return ({ d with span := some (← cut t first i) }, .restriction)
    else if c == '\x7b' then
      let name ← cut t first i
      return ({ d with span := if name.isEmpty then none else some name }, .field (i + 1))
    else return s
  | .field first =>
    if c == '\x7d' then
      let written ← cut t first i
      if written.isEmpty then throw .malformed
      return ({ d with field := some (← FieldMatch.parse written) }, .fields)
    else return s
  | .fields => if c == ']' then return (d, .restriction) else throw .malformed
  | .restriction => if c == '=' then return (d, .rank (i + 1)) else throw .malformed
  | .rank _ => return s

/-- What has been read at the end of the text. A word alone is a rank if it names one, and else a
source; without a rank everything is shown. -/
def finish (t : Text) (d : Directive) : Reading → Except Fault Directive
  | .word first => do
    let word ← cut t first (Text.Utf8.size t)
    match Level.rank? word with
    | some rank => return { d with rank := rank }
    | none => return { d with source := some word }
  | .rank first => do return { d with rank := ← rankBehind (← cut t first (Text.Utf8.size t)) }
  | .restriction => .ok d
  | .start | .span _ | .field _ | .fields => .error .malformed

/-- Reads characters from a byte position on. -/
def readFrom (t : Text) : Nat → Text → Directive × Reading → Except Fault Directive
  | _, [], (d, reading) => finish t d reading
  | i, c :: rest, s => do readFrom t (i + (Text.Utf8.encodeChar c).length) rest (← step t s i c)

/-- The directive that restricts nothing and shows everything. -/
def unrestricted : Directive := ⟨none, none, none, Level.trace.rank⟩

/-- Reads a directive. -/
def parse (t : Text) : Except Fault Directive :=
  readFrom t 0 (Text.trim t) (unrestricted, .start)

/-- Whether records that lie in no span can be decided by a directive: it names no span and asks
for no value. -/
def isStatic (d : Directive) : Bool :=
  d.span.isNone && !(d.field.map FieldMatch.valued).getD false

/-- The name of the field that a record must have. -/
def fieldName (d : Directive) : Option Text := d.field.map FieldMatch.name

/-- Whether a directive is about records from a source with the given fields. -/
def caresAbout (d : Directive) (source : Text) (fields : List Text) : Bool :=
  (d.source.all (·.isPrefixOf source)) && (d.fieldName.all fields.contains)

/-- Whether one directive is asked before another: a source before none and a longer source before
a shorter one, then a field before none; the rest is settled by the names, the greater first. -/
def precedes (d e : Directive) : Bool :=
  let length := fun (x : Directive) => match x.source with
    | some source => Text.Utf8.size source + 1
    | none => 0
  let fields := fun (x : Directive) => if x.field.isSome then 1 else 0
  let source := fun (x : Directive) => x.source.getD []
  if length d ≠ length e then length e < length d
  else if fields d ≠ fields e then fields e < fields d
  else if source d ≠ source e then source e < source d
  else (e.fieldName.getD []) < (d.fieldName.getD [])

/-- Whether two directives are about the same records. -/
def sameScope (d e : Directive) : Bool := d.source == e.source && d.fieldName == e.fieldName

end Directive

end LineShell.Log
