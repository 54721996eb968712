import LineShell.Userland.Basic
/-!
# Orders of text

The ways in which parts of lines are compared: by their bytes, some of which may not count, by the
number, size, month or version that they begin with.

`KeyOrder.compare` compares two parts as an order says.
-/

namespace LineShell.Userland

/-- The order of byte strings. -/
def bytesOrder (a b : Bytes) : Ordering :=
  if a = b then .eq else if bytesLe a b then .lt else .gt

/-- Whether a byte separates fields. -/
def isFieldBlank (b : UInt8) : Bool := b == 32 || b == 9 || b == 10

/-- The number that a text starts with: whether it is negative, its whole part, and the digits behind
its point. -/
structure LeadingNumber where
  negative : Bool
  whole : Text
  fraction : Text

namespace LeadingNumber

/-- The number that bytes start with, zero if there is none. -/
def ofBytes (bytes : Bytes) : LeadingNumber :=
  let t := (bytes.dropWhile isFieldBlank).map (fun b => Char.ofNat b.toNat)
  let (negative, t) := match t with
    | '-' :: rest => (true, rest)
    | _ => (false, t)
  let whole := t.takeWhile Char.isDigit
  let fraction := match t.drop whole.length with
    | '.' :: rest => rest.takeWhile Char.isDigit
    | _ => []
  ⟨negative, whole, fraction⟩

/-- A number moved so many places to the left of the point, as many as there are digits at least. -/
def scaled (n : LeadingNumber) (places : Nat) : Int :=
  let digits := '0' :: n.whole ++ n.fraction ++ List.replicate (places - n.fraction.length) '0'
  let magnitude : Int := (Text.toNat? digits).getD 0
  if n.negative then -magnitude else magnitude

/-- The order of numbers. -/
def compare (a b : LeadingNumber) : Ordering :=
  let places := max a.fraction.length b.fraction.length
  Ord.compare (a.scaled places) (b.scaled places)

/-- How many powers of a thousand the letter behind a number stands for, negative for a negative
number. Zero has no size. -/
def sizeRank (n : LeadingNumber) (bytes : Bytes) : Int :=
  let t := (bytes.dropWhile isFieldBlank).map (fun b => Char.ofNat b.toNat)
  let point := if n.fraction.isEmpty && (t.drop ((if n.negative then 1 else 0) + n.whole.length)
    ).head? != some '.' then 0 else 1
  let behind := t.drop ((if n.negative then 1 else 0) + n.whole.length + point + n.fraction.length)
  let letters := ['K', 'M', 'G', 'T', 'P', 'E', 'Z', 'Y', 'R', 'Q']
  let rank : Int := match behind.head? with
    | some 'k' => 1
    | some c => ((letters.findIdx? (· == c)).map (fun i => (i : Int) + 1)).getD 0
    | none => 0
  if (n.whole ++ n.fraction).all (· == '0') then 0 else if n.negative then -rank else rank

end LeadingNumber

/-- A number in scientific notation, or what stands in its place. -/
inductive GeneralNumber where
  | none
  | undefined
  | infinite (negative : Bool)
  | finite (mantissa : Int) (exponent : Int)

namespace GeneralNumber

/-- The largest exponent that is told apart from larger ones. -/
def exponentLimit : Int := 5000

/-- The number that bytes start with. -/
def ofBytes (bytes : Bytes) : GeneralNumber :=
  let t := (bytes.dropWhile isSpace).map (fun b => Char.ofNat b.toNat)
  let (negative, t) := match t with
    | '-' :: rest => (true, rest)
    | '+' :: rest => (false, rest)
    | _ => (false, t)
  let small := t.map Char.toLower
  if (Text.lit "inf").isPrefixOf small then .infinite negative
  else if (Text.lit "nan").isPrefixOf small then .undefined
  else
    let whole := t.takeWhile Char.isDigit
    let fraction := match t.drop whole.length with
      | '.' :: rest => rest.takeWhile Char.isDigit
      | _ => []
    if whole.isEmpty && fraction.isEmpty then .none
    else
      let point := match t.drop whole.length with
        | '.' :: _ => 1
        | _ => 0
      let behind := t.drop (whole.length + point + fraction.length)
      let exponent : Int := match behind with
        | e :: rest =>
          if e != 'e' && e != 'E' then 0
          else
            let (minus, digits) := match rest with
              | '-' :: rest => (true, rest.takeWhile Char.isDigit)
              | '+' :: rest => (false, rest.takeWhile Char.isDigit)
              | rest => (false, rest.takeWhile Char.isDigit)
            let n : Int := (Text.toNat? digits).getD 0
            if minus then -n else n
        | [] => 0
      let magnitude : Int := (Text.toNat? ('0' :: whole ++ fraction)).getD 0
      .finite (if negative then -magnitude else magnitude)
        (max (-exponentLimit) (min exponentLimit exponent) - fraction.length)

/-- Where a number stands among those of other kinds. -/
def rank : GeneralNumber → Nat
  | none => 0
  | undefined => 1
  | infinite true => 2
  | finite .. => 3
  | infinite false => 4

/-- The order of numbers. -/
def compare : GeneralNumber → GeneralNumber → Ordering
  | .finite m e, .finite n f =>
    let least := min e f
    Ord.compare (m * (Nat.pow 10 (e - least).toNat : Nat)) (n * (Nat.pow 10 (f - least).toNat : Nat))
  | a, b => Ord.compare a.rank b.rank

end GeneralNumber

/-- The month that bytes name, counted from one; no month is zero. -/
def monthOf (bytes : Bytes) : Nat :=
  let letters := ((bytes.dropWhile isFieldBlank).take 3).map
    (fun b => (Char.ofNat b.toNat).toUpper)
  let months := ["JAN", "FEB", "MAR", "APR", "MAY", "JUN", "JUL", "AUG", "SEP", "OCT", "NOV", "DEC"]
  ((months.findIdx? (fun m => m.toList == letters)).map (· + 1)).getD 0

/-- How a byte counts in a version: a tilde before everything, even the end, then letters, then the
rest. -/
def versionRank (b : UInt8) : Int :=
  let c := Char.ofNat b.toNat
  if c.isDigit then 0
  else if c.isAlpha then b.toNat
  else if c = '~' then -1
  else (b.toNat : Int) + 256

/-- The order of versions: runs of digits count as numbers, other bytes by their rank. -/
def versionOrder : Nat → Bytes → Bytes → Ordering
  | 0, _, _ => .eq
  | fuel + 1, a, b =>
    let isDigit := fun (b : UInt8) => 48 ≤ b && b ≤ 57
    match a, b with
    | [], [] => .eq
    | a, b =>
      let rank := fun (x : Bytes) => match x with
        | [] => 0
        | c :: _ => versionRank c
      if a.head?.any (fun c => !isDigit c) || b.head?.any (fun c => !isDigit c) then
        (Ord.compare (rank a) (rank b)).then
          (versionOrder fuel (if a.head?.any isDigit then a else a.drop 1)
            (if b.head?.any isDigit then b else b.drop 1))
      else
        let first := (a.takeWhile isDigit).dropWhile (· == 48)
        let second := (b.takeWhile isDigit).dropWhile (· == 48)
        ((Ord.compare first.length second.length).then (bytesOrder first second)).then
          (versionOrder fuel (a.dropWhile isDigit) (b.dropWhile isDigit))

/-- How parts of lines are compared. -/
structure KeyOrder where
  /-- Letters of the order, as they are given in options. -/
  letters : List Char
  deriving DecidableEq, Repr

namespace KeyOrder

/-- Whether a letter was given. -/
def has (o : KeyOrder) (c : Char) : Bool := o.letters.contains c

/-- The bytes that count, in the form in which they count. -/
def counted (o : KeyOrder) (bytes : Bytes) : Bytes :=
  let kept := bytes.filter (fun b =>
    let c := Char.ofNat b.toNat
    (!o.has 'd' || isFieldBlank b || (b < 128 && c.isAlphanum)) &&
      (!o.has 'i' || Quoting.prints b))
  if o.has 'f' then kept.map (fun b => if 97 ≤ b && b ≤ 122 then b - 32 else b) else kept

/-- The order of two parts. -/
def compare (o : KeyOrder) (a b : Bytes) : Ordering :=
  let result :=
    if o.has 'n' then (LeadingNumber.ofBytes a).compare (.ofBytes b)
    else if o.has 'g' then (GeneralNumber.ofBytes a).compare (.ofBytes b)
    else if o.has 'h' then
      let x := LeadingNumber.ofBytes a
      let y := LeadingNumber.ofBytes b
      (Ord.compare (x.sizeRank a) (y.sizeRank b)).then (x.compare y)
    else if o.has 'M' then Ord.compare (monthOf a) (monthOf b)
    else
      let a := o.counted a
      let b := o.counted b
      -- A name that begins with a point comes first.
      let hidden := fun (x : Bytes) => if x.head? == some (byte '.') then 0 else 1
      if o.has 'V' then
        (Ord.compare (hidden a) (hidden b)).then (versionOrder (a.length + b.length + 1) a b)
      else bytesOrder a b
  if o.has 'r' then result.swap else result

end KeyOrder

end LineShell.Userland
