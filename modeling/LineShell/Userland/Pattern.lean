import LineShell.Userland.Tree
/-!
# Patterns

A pattern describes byte strings: most bytes stand for themselves, a question mark for any byte, an
asterisk for any bytes, and brackets for one byte of a set. A quoted byte stands for itself in any
case.

* `Pattern.describes` says whether a pattern describes some bytes.
* `Pattern.trim` leaves out the part at one end that a pattern describes.
* `expandPath` finds the paths that a pattern with slashes describes.
-/

namespace LineShell.Userland

/-- One part of a pattern. -/
inductive Mask where
  | exactly (b : UInt8)
  | anyByte
  | anyBytes
  | oneOf (negative : Bool) (ranges : List (UInt8 × UInt8))
  deriving DecidableEq, Repr

/-- A pattern is a list of parts. -/
abbrev Pattern := List Mask

/-- A byte, and whether it is quoted. -/
abbrev MarkedByte := UInt8 × Bool

/-- The bytes without their marks. -/
def unmarked (bytes : List MarkedByte) : Bytes := bytes.map Prod.fst

namespace Pattern

/-- The ranges of a named class of bytes. -/
def classRanges? (name : Bytes) : Option (List (UInt8 × UInt8)) :=
  let lower : UInt8 × UInt8 := (byte 'a', byte 'z')
  let upper : UInt8 × UInt8 := (byte 'A', byte 'Z')
  let digit : UInt8 × UInt8 := (byte '0', byte '9')
  match String.ofList (Bytes.text name) with
  | "alpha" => some [lower, upper]
  | "alnum" => some [lower, upper, digit]
  | "digit" => some [digit]
  | "lower" => some [lower]
  | "upper" => some [upper]
  | "space" => some [(9, 13), (32, 32)]
  | "blank" => some [(9, 9), (32, 32)]
  | "punct" => some [(33, 47), (58, 64), (91, 96), (123, 126)]
  | "print" => some [(32, 126)]
  | "graph" => some [(33, 126)]
  | "cntrl" => some [(0, 31), (127, 127)]
  | "xdigit" => some [digit, (byte 'a', byte 'f'), (byte 'A', byte 'F')]
  | _ => none

/-- The class at the beginning, behind its opening bracket, and what is left behind it. -/
def namedClass? (bytes : List MarkedByte) : Option (List (UInt8 × UInt8) × List MarkedByte) :=
  match bytes with
  | (0x3a, false) :: rest =>
    let name := rest.takeWhile (fun b => b.1 != 0x3a)
    match rest.drop name.length with
    | (0x3a, _) :: (0x5d, _) :: rest => (classRanges? (unmarked name)).map (fun r => (r, rest))
    | _ => none
  | _ => none

/-- The ranges in brackets up to the closing one, and what is left behind it. The first byte closes
nothing. -/
def ranges? : Nat → Bool → List MarkedByte → Option (List (UInt8 × UInt8) × List MarkedByte)
  | 0, _, _ => none
  | fuel + 1, isFirst, bytes =>
    match bytes with
    | [] => none
    | (b, quoted) :: rest =>
      let more := fun (found : List (UInt8 × UInt8)) (rest : List MarkedByte) =>
        (ranges? fuel false rest).map (fun r => (found ++ r.1, r.2))
      if b = 0x5d && !quoted && !isFirst then some ([], rest)
      else match if b = 0x5b && !quoted then namedClass? rest else none with
        | some (found, rest) => more found rest
        | none =>
          match rest with
          | (0x2d, false) :: (last, lastQuoted) :: behind =>
            if last = 0x5d && !lastQuoted then more [(b, b)] rest else more [(b, last)] behind
          | _ => more [(b, b)] rest

/-- Reads a pattern. Brackets that are not closed stand for themselves. -/
def ofMarked : Nat → List MarkedByte → Pattern
  | 0, _ => []
  | fuel + 1, bytes =>
    match bytes with
    | [] => []
    | (b, true) :: rest => .exactly b :: ofMarked fuel rest
    | (0x2a, false) :: rest => .anyBytes :: ofMarked fuel rest
    | (0x3f, false) :: rest => .anyByte :: ofMarked fuel rest
    | (0x5b, false) :: rest =>
      let negative := rest.head? = some (0x21, false)
      let inside := if negative then rest.drop 1 else rest
      match ranges? (inside.length + 1) true inside with
      | some (ranges, rest) => .oneOf negative ranges :: ofMarked fuel rest
      | none => .exactly 0x5b :: ofMarked fuel rest
    | (b, false) :: rest => .exactly b :: ofMarked fuel rest

/-- The pattern of marked bytes. -/
def of (bytes : List MarkedByte) : Pattern := ofMarked (bytes.length + 1) bytes

/-- Whether a pattern is nothing but bytes that stand for themselves. -/
def isPlain (p : Pattern) : Bool :=
  p.all (fun m => match m with
    | .exactly _ => true
    | _ => false)

/-- All ends of some bytes, from the whole on. -/
def ends : Bytes → List Bytes
  | [] => [[]]
  | b :: rest => (b :: rest) :: ends rest

/-- Whether the bytes are described by a part and, behind it, by what follows the part. -/
def step (m : Mask) (behind : Bytes → Bool) (bytes : Bytes) : Bool :=
  match m, bytes with
  | .anyBytes, bytes => (ends bytes).any behind
  | _, [] => false
  | .exactly b, c :: rest => b == c && behind rest
  | .anyByte, _ :: rest => behind rest
  | .oneOf negative ranges, c :: rest =>
    (ranges.any (fun r => r.1 ≤ c && c ≤ r.2)) != negative && behind rest

/-- Whether a pattern describes some bytes. -/
def describes (p : Pattern) : Bytes → Bool := p.foldr step List.isEmpty

/-- The bytes without the part at an end that a pattern describes: the longest or the shortest such
part, if there is one. -/
def trim (p : Pattern) (atEnd longest : Bool) (bytes : Bytes) : Bytes :=
  let counts := List.range (bytes.length + 1)
  let kept := fun (count : Nat) => if atEnd then bytes.take count else bytes.drop count
  let part := fun (count : Nat) => if atEnd then bytes.drop count else bytes.take count
  -- At the end the part is the shorter, the more bytes are kept.
  let inOrder := if atEnd = longest then counts else counts.reverse
  match inOrder.find? (fun count => p.describes (part count)) with
  | some count => kept count
  | none => bytes

end Pattern

/-! ### Paths -/

/-- The parts of a path between slashes. -/
def pathParts (bytes : List MarkedByte) : List (List MarkedByte) :=
  bytes.foldr (fun b parts =>
    if b.1 = Path.slash then [] :: parts
    else match parts with
      | [] => [[b]]
      | part :: rest => (b :: part) :: rest) [[]]

/-- The names in a directory that a pattern describes, in case the directory may be read. Names that
begin with a dot are meant only where the dot is written. -/
def namesIn (t : FileTree) (start : Inode) (directory : Bytes) (p : Pattern) : List Bytes :=
  match t.findDirectory start (if directory.isEmpty then Path.dot else directory) with
  | .error _ => []
  | .ok i =>
    if !t.allows i .read then []
    else
      let names := Path.dot :: Path.dots :: (t.entries i).map Prod.fst
      let meansDots := p.head? = some (.exactly 0x2e)
      names.filter (fun name => (meansDots || name.head? != some 0x2e) && p.describes name)

/-- The paths behind a beginning that some parts describe. -/
def pathsBehind (t : FileTree) (start : Inode) (before : Bytes) :
    List (List MarkedByte) → List Bytes
  | [] => []
  | part :: rest =>
    let p := Pattern.of part
    let isLast := rest.isEmpty
    if p.isPlain then
      let path := before ++ unmarked part
      if isLast then
        if (t.find false start path).toOption.isSome then [path] else []
      else pathsBehind t start (path ++ [Path.slash]) rest
    else
      let names := namesIn t start before p
      if isLast then names.map (before ++ ·)
      else names.flatMap (fun name => pathsBehind t start (before ++ name ++ [Path.slash]) rest)

/-- The paths that a pattern describes, in the order of their bytes; without any the bytes
themselves. -/
def expandPath (bytes : List MarkedByte) : Run (List Bytes) := do
  if (Pattern.of bytes).isPlain then return [unmarked bytes]
  else
    let (t, start) ← here
    let found := pathsBehind t start [] (pathParts bytes)
    if found.isEmpty then return [unmarked bytes]
    else return found.mergeSort bytesLe

end LineShell.Userland
