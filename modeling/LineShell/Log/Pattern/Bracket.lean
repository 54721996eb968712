import LineShell.Log.Pattern.Escape
import LineShell.Log.Pattern.Nesting
/-!
# Classes in brackets

A class holds characters, ranges, escapes, named ASCII classes and other classes, and may be cut
with another one by `&&`, `--` or `~~`. Hyphens at its beginning mean themselves, and so does a
closing bracket that stands first, so that no class is written empty; only beside an operator there
may be nothing.

`Bracket.read?` reads one class and says how deep it is nested.
-/

namespace LineShell.Log.Pattern.Bracket

/-- A class that has been opened: the nesting of what stands before the last operator, and that of
the members behind it, the last one first. -/
structure Open where
  left : Option Nat
  members : List Nat
  deriving DecidableEq, Repr

namespace Open

/-- Adds a member. -/
def add (o : Open) (member : Nat) : Open := { o with members := member :: o.members }

/-- The nesting of what has been read. -/
def nesting (o : Open) : Nat :=
  match o.left with
  | none => together o.members
  | some left => max left (together o.members) + 1

/-- Puts an operator behind what has been read. -/
def operator (o : Open) : Open := ⟨some o.nesting, []⟩

end Open

/-- The names of the ASCII classes. -/
def names : List String :=
  ["alnum", "alpha", "ascii", "blank", "cntrl", "digit", "graph", "lower", "print", "punct",
    "space", "upper", "word", "xdigit"]

/-- A named class behind its opening bracket, if there is one: whether it is negated, and what
follows. -/
def named? : Text → Option (Bool × Text)
  | ':' :: rest =>
    let negated := rest.head? == some '^'
    let rest := if negated then rest.drop 1 else rest
    let name := Text.before (· == ':') rest
    match rest.drop name.length with
    | ':' :: ']' :: rest =>
      if names.contains (String.ofList name) then some (negated, rest) else none
    | _ => none
  | _ => none

/-- One character or escape of a class. -/
def single? (s : Switches) : Text → Option (Escaped × Text)
  | '\\' :: rest => escape? s rest
  | c :: rest => some (.char c, rest)
  | [] => none

/-- What stands behind a hyphen, where blanks do not count without them, and a number sign without
the sign alone. -/
def ahead? (s : Switches) (behind : Text) : Option Char :=
  if s.spaced then
    match behind.dropWhile Text.isBlank with
    | '#' :: rest => (rest.dropWhile Text.isBlank).head?
    | rest => rest.head?
  else behind.head?

/-- A member of a class that is no class: one item, or a range of characters. A hyphen before the
closing bracket or before another hyphen makes no range. -/
def member? (s : Switches) (t : Text) : Option Text := do
  let (first, rest) ← single? s t
  let rest := skip s rest
  let ahead := ahead? s (rest.drop 1)
  if rest.head? != some '-' || ahead == some ']' || ahead == some '-' then
    match first with
    | .char c => if s.admitsMember c then some rest else none
    | .set => some rest
    | .place => none
  else
    let (last, rest) ← single? s (skip s (rest.drop 1))
    match first, last with
    | .char a, .char b =>
      if a ≤ b && s.admitsMember a && s.admitsMember b then some rest else none
    | _, _ => none

/-- The hyphens at the beginning of a class, and what follows them. -/
def hyphens (s : Switches) : Nat → Text → Nat × Text
  | fuel + 1, '-' :: rest =>
    let (n, t) := hyphens s fuel (skip s rest)
    (n + 1, t)
  | _, t => (0, t)

/-- The beginning of a class, behind its bracket: a negation, hyphens, and a closing bracket that
stands first and means itself. -/
def start? (s : Switches) (t : Text) : Option (Open × Text) :=
  let t := skip s t
  let negated := t.head? == some '^'
  let (count, t) := hyphens s t.length (if negated then skip s (t.drop 1) else t)
  let (count, t) := if count = 0 && t.head? == some ']' then (1, t.drop 1) else (count, t)
  -- Without Unicode a negated class would match single bytes of characters.
  if negated && !s.unicode || 0 < count && !s.admitsLetter then none
  else some (⟨none, List.replicate count 0⟩, t)

/-- Reads on in the innermost of some open classes. -/
def rest? (s : Switches) : Nat → Open → List Open → Text → Option (Nat × Text)
  | 0, _, _, _ => none
  | fuel + 1, o, outside, t =>
    match skip s t with
    | [] => none
    | '[' :: rest =>
      match named? rest with
      | some (negated, rest) =>
        if !s.admitsLetter || (negated && !s.unicode) then none
        else rest? s fuel (o.add 0) outside rest
      | none =>
        match start? s rest with
        | some (inner, rest) => rest? s fuel inner (o :: outside) rest
        | none => none
    | ']' :: rest =>
      match outside with
      | [] => some (o.nesting + 1, rest)
      | outer :: outside => rest? s fuel (outer.add (o.nesting + 1)) outside rest
    | '&' :: '&' :: rest | '-' :: '-' :: rest | '~' :: '~' :: rest =>
      rest? s fuel o.operator outside rest
    | t => (member? s t).bind (rest? s fuel (o.add 0) outside)

/-- Reads a class behind its opening bracket: its nesting, and what follows. -/
def read? (s : Switches) (t : Text) : Option (Nat × Text) :=
  match start? s t with
  | some (o, rest) => rest? s (rest.length + 1) o [] rest
  | none => none

end LineShell.Log.Pattern.Bracket
