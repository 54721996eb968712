import LineShell.Userland.Editing.Command
/-!
# Substitutions

A substitution replaces parts of a text that an expression describes, from a given one on, either
one of them or all. An empty part right behind another part is none.
-/

namespace LineShell.Userland.Editing

/-- How the letters of the next bytes are changed, and that of the first of them. -/
structure LetterState where
  following : Letters
  once : Letters

/-- A byte with its letter changed. -/
def Letters.change (l : Letters) (b : UInt8) : UInt8 :=
  match l with
  | .capital | .nextCapital => ByteSet.capital b
  | .small | .nextSmall => ByteSet.small b
  | .asTheyAre => b

/-- The bytes with their letters changed, and how those that follow are. -/
def LetterState.apply (l : LetterState) : Bytes → Bytes × LetterState
  | [] => ([], l)
  | b :: rest =>
    let first := if l.once = .asTheyAre then l.following else l.once
    (first.change b :: rest.map l.following.change, { l with once := .asTheyAre })

/-- What pieces put in for a part of the text. -/
def filled (text : Array UInt8) (start : Nat) (c : Cursor) : LetterState → List Piece → Bytes
  | _, [] => []
  | l, p :: rest =>
    let put := fun (bytes : Bytes) =>
      let (shown, l) := l.apply bytes
      shown ++ filled text start c l rest
    match p with
    | .bytes b => put b
    | .group n =>
      let found := if n = 0 then some (start, c.offset) else c.group? n
      put ((found.map (fun g => (text.extract g.1 g.2).toList)).getD [])
    | .letters .nextCapital => filled text start c { l with once := .nextCapital } rest
    | .letters .nextSmall => filled text start c { l with once := .nextSmall } rest
    | .letters other => filled text start c ⟨other, .asTheyAre⟩ rest

/-- A substitution on its way through a text. -/
structure Replacing where
  pieces : List Piece
  /-- How many parts are passed over. -/
  skipped : Nat
  all : Bool

/-- The text from `start` on with parts replaced, and whether one was. The part before ended at
`before`. -/
def Replacing.run (r : Replacing) (e : Expression) (s : Subject) :
    Nat → Nat → Nat → Option Nat → Bytes × Bool
  | 0, _, start, _ => ((s.text.extract start s.text.size).toList, false)
  | fuel + 1, skipped, start, before =>
    let left := (s.text.extract start s.text.size).toList
    if s.text.size < start then ([], false)
    else match e.find? s (fun i j => !(i = j && before = some i)) start with
      | none => (left, false)
      | some (i, c) =>
        let passed := (s.text.extract start i).toList
        let j := c.offset
        -- Behind an empty part one byte is passed over.
        let step := if i = j then (s.text.extract j (j + 1)).toList else []
        let next := if i = j then j + 1 else j
        if 0 < skipped then
          let (rest, done) := r.run e s fuel (skipped - 1) next (some j)
          (passed ++ (s.text.extract i j).toList ++ step ++ rest, done)
        else
          let put := filled s.text i c ⟨.asTheyAre, .asTheyAre⟩ r.pieces
          if r.all then
            let (rest, _) := r.run e s fuel 0 next (some j)
            (passed ++ put ++ step ++ rest, true)
          else (passed ++ put ++ (s.text.extract j s.text.size).toList, true)

/-- The text with parts replaced, if any is. -/
def Substitution.apply? (s : Substitution) (e : Expression) (folds hasLines : Bool) (text : Bytes) :
    Option Bytes :=
  let bytes := text.toArray
  let r : Replacing := ⟨s.pieces, s.nth - 1, s.all⟩
  let (replaced, done) :=
    r.run e ⟨bytes, folds, hasLines, e.recalls⟩ (bytes.size + 2) (s.nth - 1) 0 none
  if done then some replaced else none

/-- A byte as the list command shows it. -/
def listed (b : UInt8) : Bytes :=
  match b with
  | 0x5c => bytesOf "\\\\"
  | 7 => bytesOf "\\a"
  | 8 => bytesOf "\\b"
  | 9 => bytesOf "\\t"
  | 10 => bytesOf "\\n"
  | 11 => bytesOf "\\v"
  | 12 => bytesOf "\\f"
  | 13 => bytesOf "\\r"
  | b =>
    if 32 ≤ b && b < 127 then [b]
    else
      let n := b.toNat
      0x5c :: [n / 64, n / 8 % 8, n % 8].map (fun d => (48 + d).toUInt8)

/-- Bytes as the list command shows them, in lines of a width; a width of nothing is no limit. -/
def listLines (width : Nat) : Nat → Bytes → Bytes
  | _, [] => bytesOf "$\n"
  | used, b :: rest =>
    let part := listed b
    if 0 < width && width - 1 < used + part.length then
      bytesOf "\\\n" ++ part ++ listLines width part.length rest
    else part ++ listLines width (used + part.length) rest

end LineShell.Userland.Editing
