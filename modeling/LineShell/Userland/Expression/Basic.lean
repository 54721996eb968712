import LineShell.Userland.Quoting
/-!
# Regular expressions

A regular expression describes parts of a text of bytes. `Expression.ends` lists where the parts end
that it describes from one place on, the preferred first: what may be repeated is repeated as often
as it can be, and of two ways the first is tried first. Two ways to the same place are told apart
only where the expression asks again for what a group has found.

`Expression.find?` is the first place from which a part is described, and there the longest part.
-/

namespace LineShell.Userland

/-- A set of bytes: those in some ranges, or all others. -/
structure ByteSet where
  negative : Bool
  ranges : List (UInt8 × UInt8)
  deriving DecidableEq, Repr

namespace ByteSet

/-- The set of one byte. -/
def single (b : UInt8) : ByteSet := ⟨false, [(b, b)]⟩

/-- The set of all bytes. -/
def all : ByteSet := ⟨true, []⟩

/-- The bytes of words: letters, digits and the underscore. -/
def ofWords : ByteSet :=
  ⟨false, [(byte 'a', byte 'z'), (byte 'A', byte 'Z'), (byte '0', byte '9'), (byte '_', byte '_')]⟩

/-- White space. -/
def blanks : ByteSet := ⟨false, [(9, 13), (32, 32)]⟩

/-- All other bytes. -/
def others (s : ByteSet) : ByteSet := { s with negative := !s.negative }

/-- Whether one of the ranges holds the byte. -/
def covers (s : ByteSet) (b : UInt8) : Bool := s.ranges.any (fun r => r.1 ≤ b && b ≤ r.2)

/-- The byte with a capital letter in place of a small one. -/
def capital (b : UInt8) : UInt8 := if byte 'a' ≤ b && b ≤ byte 'z' then b - 32 else b

/-- The byte with a small letter in place of a capital one. -/
def small (b : UInt8) : UInt8 := if byte 'A' ≤ b && b ≤ byte 'Z' then b + 32 else b

/-- Whether the set has the byte. -/
def has (s : ByteSet) (b : UInt8) : Bool := s.covers b != s.negative

/-- Whether the set has the byte when capital and small letters are the same. -/
def hasFolded (s : ByteSet) (b : UInt8) : Bool :=
  (s.covers b || s.covers (capital b) || s.covers (small b)) != s.negative

end ByteSet

/-- A place between bytes. -/
inductive Spot where
  | lineStart
  | lineEnd
  | textStart
  | textEnd
  | wordStart
  | wordEnd
  | wordEdge
  | noWordEdge
  deriving DecidableEq, Repr

/-- A regular expression. -/
inductive Expression where
  | empty
  | oneOf (set : ByteSet)
  | spot (s : Spot)
  | sequence (first second : Expression)
  | either (first second : Expression)
  | repeated (e : Expression) (least : Nat) (most : Option Nat)
  | group (number : Nat) (e : Expression)
  | again (number : Nat)
  deriving DecidableEq, Repr

/-- What an expression is held against. -/
structure Subject where
  text : Array UInt8
  /-- Whether capital and small letters are the same. -/
  folds : Bool
  /-- Whether line feeds inside the text end lines. -/
  hasLines : Bool
  /-- Whether ways to the same place are told apart by what their groups have found. -/
  recalls : Bool

/-- A place in the text on the way through an expression, and what the groups have found. -/
structure Cursor where
  offset : Nat
  groups : List (Nat × Nat × Nat)
  deriving DecidableEq, Repr

/-- What the group with a number has found: from where to where. -/
def Cursor.group? (c : Cursor) (number : Nat) : Option (Nat × Nat) :=
  (c.groups.find? (fun g => g.1 == number)).map Prod.snd

/-- The cursor after a group that began at `start`. -/
def Cursor.close (c : Cursor) (number start : Nat) : Cursor :=
  { c with groups := (number, start, c.offset) :: c.groups.filter (fun g => g.1 != number) }

/-- The cursors met so far, by their places or as a whole. -/
structure Visited where
  offsets : Nat
  cursors : List Cursor

namespace Subject

/-- Nothing met yet. -/
def unvisited : Visited := ⟨0, []⟩

/-- Whether an equal cursor has been met. -/
def hasMet (s : Subject) (v : Visited) (c : Cursor) : Bool :=
  if s.recalls then v.cursors.contains c else v.offsets.testBit c.offset

/-- Meets a cursor. -/
def meet (s : Subject) (v : Visited) (c : Cursor) : Visited :=
  if s.recalls then { v with cursors := c :: v.cursors }
  else { v with offsets := v.offsets ||| Nat.shiftLeft 1 c.offset }

/-- Leaves out cursors that have been met before. -/
def distinctFrom (s : Subject) : Visited → List Cursor → List Cursor
  | _, [] => []
  | v, c :: rest =>
    if s.hasMet v c then s.distinctFrom v rest else c :: s.distinctFrom (s.meet v c) rest

/-- The cursors, each once. -/
def distinct (s : Subject) : List Cursor → List Cursor
  | [] => []
  | [c] => [c]
  | cursors => s.distinctFrom unvisited cursors

/-- Whether a byte is in a set. -/
def inSet (s : Subject) (set : ByteSet) (b : UInt8) : Bool :=
  if s.folds then set.hasFolded b else set.has b

/-- Whether the byte at a place belongs to a word. -/
def wordAt (s : Subject) (i : Nat) : Bool := s.text[i]?.any ByteSet.ofWords.has

/-- Whether the byte before a place belongs to a word. -/
def wordBefore (s : Subject) (i : Nat) : Bool := 0 < i && s.wordAt (i - 1)

/-- Whether a place is one of its kind. -/
def isAt (s : Subject) (i : Nat) : Spot → Bool
  | .lineStart => i = 0 || (s.hasLines && s.text[i - 1]? == some 10)
  | .lineEnd => i = s.text.size || (s.hasLines && s.text[i]? == some 10)
  | .textStart => i = 0
  | .textEnd => i = s.text.size
  | .wordStart => !s.wordBefore i && s.wordAt i
  | .wordEnd => s.wordBefore i && !s.wordAt i
  | .wordEdge => s.wordBefore i != s.wordAt i
  | .noWordEdge => s.wordBefore i == s.wordAt i

/-- Whether the text from `i` on goes on like the part from `start` to `stop`. -/
def goesOnLike (s : Subject) (start stop i : Nat) : Bool :=
  i + (stop - start) ≤ s.text.size &&
    (List.range (stop - start)).all (fun k =>
      match s.text[start + k]?, s.text[i + k]? with
      | some a, some b => a == b || (s.folds && ByteSet.small a == ByteSet.small b)
      | _, _ => false)

/-- Goes through every cursor `count` times. -/
def stages (s : Subject) (step : Cursor → List Cursor) : Nat → List Cursor → List Cursor
  | 0, cursors => cursors
  | n + 1, cursors =>
    if cursors.isEmpty then [] else s.stages step n (s.distinct (cursors.flatMap step))

/-- Goes on from a cursor as often as possible. The cursors met are collected, the preferred
last. -/
def climb (s : Subject) (step : Cursor → List Cursor) :
    Nat → Cursor → Visited × List Cursor → Visited × List Cursor
  | 0, c, found => (found.1, c :: found.2)
  | fuel + 1, c, found =>
    let above := (step c).foldl
      (fun found d =>
        if s.hasMet found.1 d then found else s.climb step fuel d (s.meet found.1 d, found.2))
      found
    (above.1, c :: above.2)

/-- All cursors reached by going on any number of times. -/
def closure (s : Subject) (step : Cursor → List Cursor) (cursors : List Cursor) : List Cursor :=
  (cursors.foldl
    (fun found d =>
      if s.hasMet found.1 d then found
      else s.climb step (s.text.size + 1) d (s.meet found.1 d, found.2))
    (unvisited, [])).2.reverse

end Subject

namespace Expression

/-- Where the parts end that an expression describes from a cursor on, the preferred first. -/
def ends (s : Subject) : Expression → Cursor → List Cursor
  | .empty, c => [c]
  | .oneOf set, c =>
    match s.text[c.offset]? with
    | some b => if s.inSet set b then [{ c with offset := c.offset + 1 }] else []
    | none => []
  | .spot p, c => if s.isAt c.offset p then [c] else []
  | .sequence first second, c => s.distinct ((ends s first c).flatMap (ends s second))
  | .either first second, c => s.distinct (ends s first c ++ ends s second c)
  | .group number e, c => (ends s e c).map (fun d => d.close number c.offset)
  | .again number, c =>
    match c.group? number with
    | some (start, stop) =>
      if s.goesOnLike start stop c.offset then [{ c with offset := c.offset + (stop - start) }]
      else []
    | none => []
  | .repeated e least most, c =>
    let begun := s.stages (ends s e) least [c]
    match most with
    | none => s.closure (ends s e) begun
    | some most => s.stages (fun d => ends s e d ++ [d]) (most - least) begun

/-- Whether an expression asks again for what a group has found. -/
def recalls : Expression → Bool
  | .again _ => true
  | .sequence a b | .either a b => a.recalls || b.recalls
  | .repeated e _ _ | .group _ e => e.recalls
  | _ => false

/-- The sequence of bytes. -/
def ofBytes : Bytes → Expression
  | [] => .empty
  | b :: rest => rest.foldl (fun e b => .sequence e (.oneOf (.single b))) (.oneOf (.single b))

/-- The cursor that is farthest on, the first of several. -/
def farthest? (cursors : List Cursor) : Option Cursor :=
  cursors.foldl
    (fun best c => match best with
      | some b => if b.offset < c.offset then some c else best
      | none => some c)
    none

/-- The farthest admitted end of a part that begins at `start`. -/
def findAt? (e : Expression) (s : Subject) (admits : Nat → Nat → Bool) (start : Nat) :
    Option Cursor :=
  farthest? ((e.ends s ⟨start, []⟩).filter (fun c => admits start c.offset))

/-- The first place among the next `count` from which a part is described, and its farthest end.
Only parts that `admits` is true of count. -/
def findFrom? (e : Expression) (s : Subject) (admits : Nat → Nat → Bool) :
    Nat → Nat → Option (Nat × Cursor)
  | 0, _ => none
  | count + 1, start =>
    match e.findAt? s admits start with
    | some c => some (start, c)
    | none => e.findFrom? s admits count (start + 1)

/-- The first part from `start` on that is described, as its place and its end. -/
def find? (e : Expression) (s : Subject) (admits : Nat → Nat → Bool) (start : Nat) :
    Option (Nat × Cursor) :=
  e.findFrom? s admits (s.text.size + 1 - start) start

end Expression

end LineShell.Userland
