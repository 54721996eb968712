import LineShell.Log.Pattern.Bracket
import LineShell.Text.Alphabetic
/-!
# Patterns for field values

The value of a field in a log filter is a pattern: characters, classes in brackets, groups, choices
and repetitions, with escapes and switches. Nothing here matches a pattern; a filter with a broken
pattern is no filter at all, so only its form is checked: that it can be read, and that its parts
do not lie too deep in each other.

`Pattern.nesting?` walks over a pattern once. It keeps what has been read of the group it is in
(`Branches`), and the same for each group around.
-/

namespace LineShell.Log.Pattern

/-- A part of a pattern that has been read. Only a switch cannot be repeated. -/
structure Part where
  nesting : Nat
  repeatable : Bool
  deriving DecidableEq, Repr

/-- What has been read of a group: the switches as they are now, the nesting of the finished
choices, and the parts of the choice that is being read, the last one first. -/
structure Branches where
  switches : Switches
  choices : List Nat
  parts : List Part
  deriving DecidableEq, Repr

namespace Branches

/-- A group of which nothing has been read. -/
def empty (s : Switches) : Branches := ⟨s, [], []⟩

/-- Adds a part. -/
def add (b : Branches) (nesting : Nat) : Branches := { b with parts := ⟨nesting, true⟩ :: b.parts }

/-- Sets the switches from here on. -/
def switch (b : Branches) (s : Switches) : Branches :=
  { b with switches := s, parts := ⟨0, false⟩ :: b.parts }

/-- The nesting of the choice that is being read. -/
def choice (b : Branches) : Nat := together (b.parts.map Part.nesting)

/-- Begins another choice. -/
def next (b : Branches) : Branches := { b with choices := b.choice :: b.choices, parts := [] }

/-- Repeats the last part, if there is one that can be repeated. -/
def repeated? (b : Branches) : Option Branches :=
  match b.parts with
  | ⟨nesting, true⟩ :: parts => some { b with parts := ⟨nesting + 1, true⟩ :: parts }
  | _ => none

/-- The nesting of all that has been read. -/
def nesting (b : Branches) : Nat := together (b.choice :: b.choices)

end Branches

/-- How far the walk over a pattern has come. -/
structure Progress where
  here : Branches
  /-- The groups around, the innermost first. -/
  outside : List Branches
  names : List Text
  deriving DecidableEq, Repr

namespace Progress

/-- Adds a part to the group that is being read. -/
def add (p : Progress) (nesting : Nat) : Progress := { p with here := p.here.add nesting }

/-- Opens a group with its switches. -/
def openGroup (p : Progress) (s : Switches) : Progress :=
  { p with here := .empty s, outside := p.here :: p.outside }

/-- Closes a group, if one is open. -/
def closeGroup? (p : Progress) : Option Progress :=
  match p.outside with
  | [] => none
  | outer :: outside =>
    some { p with here := outer.add (p.here.nesting + 1), outside := outside }

end Progress

/-! ### Groups -/

/-- Reads switches up to a colon or a closing parenthesis. A letter counts once, a minus sign too,
and something must follow the minus sign. -/
def switches? : Nat → Switches → Bool → Text → Text → Option (Switches × Text × Text)
  | 0, _, _, _, _ => none
  | fuel + 1, s, on, seen, t =>
    match t with
    | [] => none
    | c :: rest =>
      if c == ':' || c == ')' then
        if seen.getLast? == some '-' then none else some (s, seen, t)
      else if seen.contains c then none
      else if c == '-' then switches? fuel s false (seen ++ [c]) rest
      else (s.set? c on).bind (fun s => switches? fuel s on (seen ++ [c]) rest)

/-- Whether a name of a group is well formed: a letter or an underscore, then letters, numbers and a
few marks. -/
def isGroupName : Text → Bool
  | [] => false
  | c :: rest =>
    (c == '_' || Text.Alphabetic.contains c) &&
      rest.all (fun c => c == '_' || c == '.' || c == '[' || c == ']' ||
        Text.Alphanumeric.contains c)

/-- Opens a group with a name, which no other group may have. -/
def namedGroup? (p : Progress) (t : Text) : Option (Progress × Text) :=
  match Text.after (· == '>') t with
  | none => none
  | some rest =>
    let name := Text.before (· == '>') t
    if isGroupName name && !p.names.contains name then
      some ({ p.openGroup p.here.switches with names := name :: p.names }, rest)
    else none

/-- Opens a group, or sets switches for the rest of the group around. -/
def group? (p : Progress) (t : Text) : Option (Progress × Text) :=
  let s := p.here.switches
  match skip s t with
  | '?' :: '=' :: _ | '?' :: '!' :: _ | '?' :: '<' :: '=' :: _ | '?' :: '<' :: '!' :: _ => none
  | '?' :: 'P' :: '<' :: rest | '?' :: '<' :: rest => namedGroup? p rest
  | '?' :: rest =>
    match switches? (rest.length + 1) s true [] rest with
    | some (s, _, ':' :: rest) => some (p.openGroup s, rest)
    | some (s, seen, ')' :: rest) =>
      if seen.isEmpty then none else some ({ p with here := p.here.switch s }, rest)
    | _ => none
  | rest => some (p.openGroup s, rest)

/-! ### Patterns -/

/-- Walks over the rest of a pattern and says how deep all of it is nested. -/
def walk : Nat → Progress → Text → Option Nat
  | 0, _, _ => none
  | fuel + 1, p, t =>
    let s := p.here.switches
    match skip s t with
    | [] => if p.outside.isEmpty then some p.here.nesting else none
    | '(' :: rest => (group? p rest).bind fun (p, rest) => walk fuel p rest
    | ')' :: rest => p.closeGroup?.bind (walk fuel · rest)
    | '|' :: rest => walk fuel { p with here := p.here.next } rest
    | '[' :: rest => (Bracket.read? s rest).bind fun (nesting, rest) => walk fuel (p.add nesting) rest
    -- Counts in braces hold a closing brace, which ends the value before.
    | '\x7b' :: _ => none
    | '\\' :: rest =>
      match escape? s rest with
      | some (.char _, rest) => if s.admitsLetter then walk fuel (p.add 0) rest else none
      | some (_, rest) => walk fuel (p.add 0) rest
      | none => none
    | '.' :: rest => if s.unicode then walk fuel (p.add 0) rest else none
    | '^' :: rest | '$' :: rest => walk fuel (p.add 0) rest
    | c :: rest =>
      if c == '*' || c == '+' || c == '?' then
        p.here.repeated?.bind fun here =>
          walk fuel { p with here := here } (if rest.head? == some '?' then rest.drop 1 else rest)
      else if s.admitsLetter then walk fuel (p.add 0) rest
      else none

/-- How deep the parts of a pattern lie in each other; nothing for a text that is no pattern. -/
def nesting? (t : Text) : Option Nat := walk (t.length + 1) ⟨.empty .standard, [], []⟩ t

/-- Whether a text is a pattern. -/
def isValid (t : Text) : Bool := (nesting? t).any (· ≤ nestingLimit)

end LineShell.Log.Pattern
