import LineShell.Toml.Scalar
/-!
# The grammar of a document

Keys, arrays, inline tables and lines. `line` reads one line of a document with the statement on it,
if it has one.

A list of parts, items or fields ends where no further one can be read; what must follow it then
says what is wrong there. Only a settled fault inside a part, an item or a field is told as it is.
-/

namespace LineShell.Toml

open Scalar

/-- How deep values may stand in each other, and how many parts a key may have. -/
def depthLimit : Nat := 80

/-- Too many levels or parts. -/
def tooDeep {α : Type} (t : Text) : Except Fault α :=
  .error { Fault.atPlace t with cause := some .tooDeep }

/-! ### Keys -/

/-- Characters of a key without quotes. -/
def inBareKey (c : Char) : Bool := c.isAlphanum || c == '_' || c == '-'

/-- One part of a key. -/
def keyPart (t : Text) : Except Fault (Text × Text) :=
  match t with
  | '"' :: rest => basic (t.length + 1) [] rest
  | '\'' :: rest => literal rest
  | _ =>
    let bare := t.takeWhile inBareKey
    if bare.isEmpty then .error (.atPlace t) else .ok (bare, t.drop bare.length)

/-- The parts of a key; blanks may stand around its dots. Blanks behind it are taken too. A dot with
no part behind it does not belong to the key. -/
def keyParts : Nat → Text → Except Fault (Key × Text)
  | 0, t => .error (.atPlace t)
  | fuel + 1, t => do
    let (part, rest) ← keyPart (skipBlanks t)
    match skipBlanks rest with
    | '.' :: behind => orValue ([part], '.' :: behind) <|
        (keyParts fuel behind).map fun r => (part :: r.1, r.2)
    | rest => return ([part], rest)

/-- A key that is not too long. -/
def key (t : Text) : Except Fault (Key × Text) := do
  let (parts, rest) ← labelled "key" (keyParts (t.length + 1) t)
  if depthLimit ≤ parts.length then tooDeep t else return (parts, rest)

/-- The stretch of the first part of a key. -/
def firstPart (t : Text) : Span :=
  let t := skipBlanks t
  match keyPart t with
  | .ok (_, rest) => ⟨t, rest⟩
  | .error _ => ⟨t, t⟩

/-- The equals sign behind a key. -/
def equals (t : Text) : Except Fault Text :=
  expecting [.literal ['.'], .literal ['=']] (settled (one '=' t))

/-! ### Values -/

/-- Takes a comment, if there is one. -/
def skipComment (t : Text) : Text :=
  match t with
  | '#' :: rest => rest.dropWhile isPlain
  | _ => t

/-- Leaves out blanks, line ends and comments. -/
def skipLayout : Nat → Text → Text
  | 0, t => t
  | fuel + 1, t =>
    match skipBlanks t with
    | '#' :: rest => skipLayout fuel (rest.dropWhile isPlain)
    | t =>
      match newline? t with
      | some rest => skipLayout fuel rest
      | none => t

/-- A table between braces while it is built: its fields, and whether dotted keys made it. -/
inductive Inline where
  | value (v : Value)
  | table (dotted : Bool) (fields : List (Text × Inline))
  deriving Inhabited

namespace Inline

/-- The value of an inline table. -/
def toValue : Nat → Inline → Value
  | 0, _ => .boolean false
  | _, .value v => v
  | fuel + 1, .table _ fields => .table (fields.map (fun f => (f.1, toValue fuel f.2)))

/-- The fields of an inline table. -/
abbrev Fields := List (Text × Inline)

/-- Enters a value under a key whose first parts are `before`; the fields may belong to a table that
dotted keys made. A part that is taken by anything else than such a table is an error. -/
def insert (before : Key) : Key → Value → Fields → Except Cause Fields
  | [], _, fields => .ok fields
  | [last], v, fields =>
    if fields.any (fun f => f.1 == last) then .error (.duplicate last none)
    else .ok (fields ++ [(last, .value v)])
  | part :: rest, v, fields => do
    let before := before ++ [part]
    match fields.find? (fun f => f.1 == part) with
    | none =>
      let inner ← insert before rest v []
      return fields ++ [(part, .table true inner)]
    | some (_, .table true inner) =>
      let inner ← insert before rest v inner
      return fields.map (fun f => if f.1 == part then (part, .table true inner) else f)
    | some (_, .value (.table _)) | some (_, .table false _) => throw (.duplicate part none)
    | some (_, .value v) => throw (.noTable before v.kind)

/-- The inline table of fields in order; `t` is what the table begins. -/
def ofFields (t : Text) (fields : List (Key × Value)) : Except Fault Value :=
  match fields.foldlM (fun made f => insert [] f.1 f.2 made) [] with
  | .ok made => .ok (toValue (t.length + 1) (.table false made))
  | .error cause => .error { Fault.atPlace t with cause := some cause, settled := true }

end Inline

mutual

/-- A value, arrays and inline tables at most `depth` levels deep. -/
def valueAt : Nat → Nat → Text → Except Fault (Value × Text)
  | 0, _, t => .error (.atPlace t)
  | fuel + 1, depth, t =>
    match t with
    | '[' :: inner =>
      match depth with
      | 0 => settled (tooDeep inner)
      | depth + 1 => do
        let (items, rest) ← items fuel depth inner
        let rest ← labelled "array" (expecting [.literal [']']] (settled (one ']' rest)))
        return (.array items, rest)
    | '\x7b' :: inner =>
      match depth with
      | 0 => settled (tooDeep inner)
      | depth + 1 => do
        let (fields, rest) ← fields fuel depth inner
        let table ← Inline.ofFields inner fields
        let rest ← labelled "inline table" <|
          expecting [.literal ['\x7d']] (settled (one '\x7d' (skipBlanks rest)))
        return (table, rest)
    | _ => value t

/-- The items of an array, and what follows them and the layout behind them; a comma may stand
behind the last one. -/
def items : Nat → Nat → Text → Except Fault (List (Span × Value) × Text)
  | 0, _, t => .error (.atPlace t)
  | fuel + 1, depth, t =>
    let t := skipLayout t.length t
    match valueAt fuel depth t with
    | .error f => if f.settled then .error f else .ok ([], t)
    | .ok (v, behind) => do
      let item : Span × Value := (⟨t, behind⟩, v)
      match skipLayout behind.length behind with
      | ',' :: rest => (items fuel depth rest).map fun r => (item :: r.1, r.2)
      | rest => return ([item], rest)

/-- The fields of an inline table, and what follows them; no comma may stand behind the last one. -/
def fields : Nat → Nat → Text → Except Fault (List (Key × Value) × Text)
  | 0, _, t => .error (.atPlace t)
  | fuel + 1, depth, t =>
    match key t with
    | .error f => if f.settled then .error f else .ok ([], t)
    | .ok (key, rest) => do
      let rest ← equals rest
      let (value, rest) ← settled (valueAt fuel depth (skipBlanks rest))
      match skipBlanks rest with
      | ',' :: behind => do
        let (more, rest) ← fields fuel depth behind
        if more.isEmpty then return ([(key, value)], ',' :: behind)
        else return ((key, value) :: more, rest)
      | rest => return ([(key, value)], rest)

end

/-- A value on a line of its own. -/
def topValue (t : Text) : Except Fault (Value × Text) := valueAt (t.length + 1) (depthLimit - 1) t

/-! ### Lines -/

/-- The end of a line: the line end, or the end of the document. -/
def lineEnd (t : Text) : Except Fault Text :=
  match newline? t with
  | some rest => .ok rest
  | none => if t.isEmpty then .ok [] else .error (.atPlace t)

/-- The end of a line behind a statement; blanks and a comment may stand before it. -/
def trailing (t : Text) : Except Fault Text :=
  expecting [.words (Text.lit "newline"), .literal ['#']] (lineEnd (skipComment (skipBlanks t)))

/-- Takes some given characters. -/
def exactly (expected t : Text) : Except Fault Text :=
  match Text.dropStart? expected t with
  | some rest => .ok rest
  | none => .error (.atPlace t)

/-- The line of a header; the key stands between brackets, single ones or double ones. -/
def header (t : Text) : Except Fault (Statement × Text) :=
  labelled "table header" <|
    match t with
    | _ :: [] | [] => .error (.atPlace t)
    | _ :: second :: _ => do
      let count := if second == '[' then 2 else 1
      let closing := List.replicate count ']'
      let inner := t.drop count
      let (key, rest) ← key inner
      let behind ← expecting [.literal ['.'], .literal closing] (exactly closing rest)
      let rest ← trailing behind
      let content := if count = 2 then Content.arrayHeader else .tableHeader
      return (⟨key, content, firstPart inner, ⟨t, behind⟩⟩, rest)

/-- The line of a key with its value. -/
def assignment (t : Text) : Except Fault (Statement × Text) := do
  let (key, rest) ← key t
  let rest ← equals rest
  let start := skipBlanks rest
  let (value, behind) ← topValue start
  let rest ← trailing behind
  return (⟨key, .assignment value, firstPart t, ⟨start, behind⟩⟩, rest)

/-- A line from its first character that is no blank: the statement, if it has one. -/
def line (t : Text) : Except Fault (Option Statement × Text) :=
  match t with
  | [] => .ok (none, [])
  | '#' :: _ => (lineEnd (skipComment t)).map fun rest => (none, rest)
  | '\n' :: _ | '\r' :: _ => (lineEnd t).map fun rest => (none, rest)
  | '[' :: _ => (header t).map fun r => (some r.1, r.2)
  | _ => (assignment t).map fun r => (some r.1, r.2)

end LineShell.Toml
