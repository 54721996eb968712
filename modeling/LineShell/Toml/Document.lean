import LineShell.Toml.Grammar
/-!
# Documents

A document is the table that its statements build. Every table is made once: by a header, by dotted
keys, or silently on the way to another table. A header may take over a table that was made
silently, and dotted keys may go on with a table that dotted keys made; a value under a key that is
there already is an error.

`Document.ofText` reads a document, `Document.get?` looks up a key of its outermost table, and
`Document.places` tells where the keys of that table stand.
-/

namespace LineShell.Toml

/-- How a table came to be. -/
inductive Origin where
  | header
  | dotted
  | silent
  deriving DecidableEq, Repr

/-- What a key stands for while a document is built. -/
inductive Item where
  | value (v : Value)
  | table (origin : Origin) (fields : List (Text × Item))
  /-- An array of tables, the last one first. -/
  | tables (last : List (Text × Item)) (before : List (List (Text × Item)))
  deriving Inhabited

/-- The fields of a table. -/
abbrev Fields := List (Text × Item)

namespace Fields

/-- The item of a key. -/
def find (fields : Fields) (key : Text) : Option Item :=
  (List.find? (fun f => f.1 == key) fields).map Prod.snd

/-- Puts an item in the place of a key, or at the end. -/
def put (fields : Fields) (key : Text) (item : Item) : Fields :=
  if List.any fields (fun f => f.1 == key) then
    List.map (fun f => if f.1 == key then (key, item) else f) fields
  else fields ++ [(key, item)]

/-- Enters a value under a dotted key, behind the parts `before` of the key. The way may lead
through any table that no header made, but the table that receives the value must be open: the one
of the last header, which is `table`, or one that dotted keys made. -/
def assign (table before : Key) : Key → Value → Bool → Fields → Except Cause Fields
  | [], _, _, fields => .ok fields
  | [last], v, isOpen, fields =>
    match isOpen, find fields last with
    | false, _ => .error (.duplicate last none)
    | true, some _ => .error (.duplicate last (some table))
    | true, none => .ok (put fields last (.value v))
  | part :: rest, v, _, fields => do
    let before := before ++ [part]
    match find fields part with
    | none =>
      let inner ← assign table before rest v true []
      return put fields part (.table .dotted inner)
    | some (.table .dotted inner) =>
      let inner ← assign table before rest v true inner
      return put fields part (.table .dotted inner)
    | some (.table .silent inner) =>
      let inner ← assign table before rest v false inner
      return put fields part (.table .silent inner)
    | some (.tables last others) =>
      let last ← assign table before rest v false last
      return put fields part (.tables last others)
    -- A header has closed that table to dotted keys.
    | some (.table .header _) => throw (.duplicate part none)
    | some (.value v) => throw (.noTable before v.kind)

/-- Changes the table that a path of headers leads to, behind the parts `before` of it, making
tables silently on the way; of an array of tables the last one is meant. -/
def within (change : Fields → Except Cause Fields) (before : Key) :
    Key → Fields → Except Cause Fields
  | [], fields => change fields
  | part :: rest, fields => do
    let before := before ++ [part]
    match find fields part with
    | none =>
      let inner ← within change before rest []
      return put fields part (.table .silent inner)
    | some (.table origin inner) =>
      let inner ← within change before rest inner
      return put fields part (.table origin inner)
    | some (.tables last others) =>
      let last ← within change before rest last
      return put fields part (.tables last others)
    | some (.value v) => throw (.noTable before v.kind)

/-- Opens a table by its header, in the table of a given name. -/
def openTable (table : Key) (key : Text) (fields : Fields) : Except Cause Fields :=
  match find fields key with
  | none => .ok (put fields key (.table .header []))
  | some (.table .silent inner) => .ok (put fields key (.table .header inner))
  | some _ => .error (.duplicate key (some table))

/-- Opens one more table of an array by its header, in the table of a given name. -/
def openElement (table : Key) (key : Text) (fields : Fields) : Except Cause Fields :=
  match find fields key with
  | none => .ok (put fields key (.tables [] []))
  | some (.tables last before) => .ok (put fields key (.tables [] (last :: before)))
  | some _ => .error (.duplicate key (some table))

end Fields

/-- Where the keys of the outermost table stand, in order. -/
abbrev Places := List (Text × Span)

namespace Places

/-- The stretch of a key. -/
def find? (places : Places) (key : Text) : Option Span :=
  (List.find? (fun p => p.1 == key) places).map Prod.snd

/-- Puts a stretch in the place of a key, or at the end. -/
def put (places : Places) (key : Text) (span : Span) : Places :=
  if (places.find? key).isSome then
    List.map (fun p => if p.1 == key then (key, span) else p) places
  else places ++ [(key, span)]

/-- The places with one statement more, below a header. A key stands where its value stands, or
where its header stands together with the values below it; a table that is made on the way stands
where its name is met first. A header that takes over such a table puts it at the end. -/
def add (header : Key) (places : Places) (s : Statement) : Places :=
  let meet := fun (name : Text) =>
    if (places.find? name).isSome then places else places ++ [(name, s.firstPart)]
  let extend := fun (name : Text) => match places.find? name with
    | some span => places.put name (span.cover s.main)
    | none => places ++ [(name, s.main)]
  match s.content, header, s.key with
  | .assignment _, [], [key] => places ++ [(key, s.main)]
  | .assignment _, [], part :: _ => meet part
  | .assignment _, [table], _ => extend table
  | .assignment _, _, _ => places
  | .tableHeader, _, [table] =>
    List.filter (fun p => p.1 != table) places ++ [(table, s.main)]
  | .arrayHeader, _, [table] => extend table
  | _, _, part :: _ => meet part
  | _, _, [] => places

end Places

/-- A document while it is built: the outermost table, the places of its keys, and the header that
is open. -/
structure Building where
  root : Fields
  places : Places
  header : Key

namespace Building

/-- Adds what a statement says to the outermost table. -/
def enter (b : Building) (s : Statement) : Except Cause Fields :=
  let table := s.key.dropLast
  let last := s.key.getLast?.getD []
  match s.content with
  | .assignment v => Fields.within (Fields.assign b.header [] s.key v true) [] b.header b.root
  | .tableHeader => Fields.within (Fields.openTable table last) [] table b.root
  | .arrayHeader => Fields.within (Fields.openElement table last) [] table b.root

/-- Adds one statement. -/
def add (b : Building) (s : Statement) : Except Cause Building := do
  let root ← b.enter s
  let header := match s.content with
    | .assignment _ => b.header
    | _ => s.key
  return ⟨root, b.places.add b.header s, header⟩

/-- Adds the statement of a line; a fault in what it says stands where the line begins. -/
def addFrom (b : Building) (start : Text) (s : Statement) : Except Fault Building :=
  match b.add s with
  | .ok b => .ok b
  | .error cause =>
    let fault := { Fault.atPlace start with cause := some cause, settled := true }
    match s.content with
    | .assignment _ => .error fault
    | _ => labelled "table header" (.error fault)

/-- Adds the statements of all lines of a text. -/
def addLines : Nat → Building → Text → Except Fault Building
  | 0, b, _ => .ok b
  | fuel + 1, b, t =>
    let t := Scalar.skipBlanks t
    if t.isEmpty then .ok b
    else do
      let (statement, rest) ← line t
      let b ← match statement with
        | some s => b.addFrom t s
        | none => .ok b
      addLines fuel b rest

end Building

/-- A document: the fields of its outermost table, and where their keys stand. -/
structure Document where
  fields : Fields
  places : Places

/-- What makes documents of texts. -/
abbrev Reader := Text → Except Fault Document

namespace Document

/-- Reads a document; a mark of the byte order at its beginning is left out. -/
def ofText : Reader := fun t => do
  let body := match t with
    | c :: rest => if c.toNat = 0xFEFF then rest else t
    | [] => []
  let b ← Building.addLines (t.length + 1) ⟨[], [], []⟩ body
  return ⟨b.root, b.places⟩

/-- The item of a key of the outermost table. -/
def get? (d : Document) (key : Text) : Option Item := Fields.find d.fields key

end Document

end LineShell.Toml
