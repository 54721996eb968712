import LineShell.Text.Blank
import LineShell.Userland.Basic
/-!
# Parts of lines

`tr` and `cut`.
-/

namespace LineShell.Userland

/-- The bytes of a class of `tr`. -/
def classMembers (className : Bytes) : Option Bytes :=
  let all : Bytes := (List.range 256).map Nat.toUInt8
  let pick := fun (p : Char → Bool) =>
    some (all.filter (fun b => b < 128 && p (Char.ofNat b.toNat)))
  match String.ofList (Bytes.text className) with
  | "alpha" => pick Char.isAlpha
  | "digit" => pick Char.isDigit
  | "alnum" => pick Char.isAlphanum
  | "lower" => pick Char.isLower
  | "upper" => pick Char.isUpper
  | "space" => some (all.filter isSpace)
  | "blank" => some [9, 32]
  | "print" => some (all.filter Quoting.prints)
  | "punct" => pick (fun c => 32 < c.toNat && c.toNat < 127 && !c.isAlphanum)
  | _ => none

/-- The bytes of a set of `tr`, with escapes, ranges and classes written out. -/
def setMembers : Nat → Bytes → Bytes
  | 0, _ => []
  | fuel + 1, set =>
    match set with
    | [] => []
    | 0x5b :: 0x3a :: rest =>
      let className := rest.takeWhile (· != byte ':')
      match rest.drop className.length, classMembers className with
      | 0x3a :: 0x5d :: rest, some members => members ++ setMembers fuel rest
      | _, _ => 0x5b :: setMembers fuel (0x3a :: rest)
    | 0x5c :: c :: rest =>
      let octal := (c :: rest).take 3 |>.takeWhile (fun b => 48 ≤ b && b ≤ 55)
      if !octal.isEmpty then
        (octal.foldl (fun (n : Nat) (b : UInt8) => 8 * n + (b.toNat - 48)) 0).toUInt8 ::
          setMembers fuel ((c :: rest).drop octal.length)
      else
        let value : UInt8 := match Char.ofNat c.toNat with
          | 'n' => 10
          | 't' => 9
          | 'r' => 13
          | 'a' => 7
          | 'b' => 8
          | 'f' => 12
          | 'v' => 11
          | _ => c
        value :: setMembers fuel rest
    | a :: 0x2d :: b :: rest =>
      if a ≤ b then
        (List.range (b.toNat - a.toNat + 1)).map (fun n => a + n.toUInt8) ++ setMembers fuel rest
      else a :: setMembers fuel (0x2d :: b :: rest)
    | a :: rest => a :: setMembers fuel rest

/-- Leaves out bytes of a set that repeat the byte before. -/
def squeeze (set : Bytes) : Bytes → Bytes
  | a :: b :: rest =>
    if a == b && set.contains a then squeeze set (b :: rest) else a :: squeeze set (b :: rest)
  | bytes => bytes

/-- Translates, deletes or squeezes bytes. -/
def tr : Program := fun name args => do
  let (options, operands) ← Options.getLeading
    ⟨['d', 's', 'c', 'C', 't'], [],
      [("delete", 'd'), ("squeeze-repeats", 's'), ("complement", 'c')]⟩ name args 1
  let has := given options
  let deletesOnly := has 'd' && !has 's'
  match operands with
  | [] => misuse name (bytesOf "missing operand") 1
  | first :: more =>
    if more.isEmpty && has 'd' == has 's' then
      complain name (bytesOf "missing operand after " ++ Quoting.word first)
      err (bytesOf "Two strings must be given when " ++
        bytesOf (if has 'd' then "both deleting and squeezing repeats" else "translating") ++
        bytesOf ".\n")
      pointToHelp name
      exit 1
    else if let some extra := (more.drop (if deletesOnly then 0 else 1)).head? then
      complain name (bytesOf "extra operand " ++ Quoting.word extra)
      if deletesOnly && more.length = 1 then
        err (bytesOf
          "Only one string may be given when deleting without squeezing repeats.\n")
      pointToHelp name
      exit 1
    else
      let from_ := setMembers (first.length + 1) first
      let from_ := if has 'c' || has 'C' then
          ((List.range 256).map Nat.toUInt8).filter (fun b => !from_.contains b)
        else from_
      let target := (more.head?.map (fun m => setMembers (m.length + 1) m)).getD []
      match ← slurp 0 with
      | .error e =>
        complainOf name (bytesOf "read error") e
        exit 1
      | .ok s =>
        let change := fun (bytes : Bytes) =>
          if has 'd' then
            let kept := bytes.filter (fun b => !from_.contains b)
            if has 's' then squeeze target kept else kept
          else if more.isEmpty then squeeze from_ bytes
          else
            let moved := bytes.map (fun b =>
              -- The last place of a repeated byte decides.
              match from_.reverse.findIdx? (· == b) with
              | none => b
              | some i =>
                let i := from_.length - 1 - i
                (target[i]?).getD (target.getLast?.getD b))
            if has 's' then squeeze target moved else moved
        outStream ⟨change s.bytes, change s.cycle⟩
        return 0

/-- Why a list of positions cannot be read. -/
inductive RangeFault where
  | noNumber (written : Text)
  | zero
  | decreasing
  | noEnds

/-- The message of a wrong list: of fields, or of bytes and characters. -/
def RangeFault.message (fields : Bool) : RangeFault → Bytes
  | .noNumber written =>
    bytesOf (if fields then "invalid field value " else "invalid byte/character position ") ++
      Quoting.word written.bytes
  | .zero =>
    if fields then bytesOf "fields are numbered from 1"
    else bytesOf "byte/character positions are numbered from 1"
  | .decreasing => bytesOf "invalid decreasing range"
  | .noEnds => bytesOf "invalid range with no endpoint: -"

/-- A position of a list; `rest` is what stands from it on. -/
def position (rest digits : Text) : Except RangeFault Nat :=
  match Text.toNat? digits with
  | some 0 => .error .zero
  | some n => .ok n
  | none => .error (if digits.isEmpty then .zero else .noNumber rest)

/-- One range of a list of positions: `2`, `2-`, `-4`, `2-4`. -/
def rangeOf (piece : Text) : Except RangeFault (Nat × Option Nat) :=
  let low := piece.takeWhile (· != '-')
  match piece.drop low.length with
  | [] => (position piece low).map (fun n => (n, some n))
  | _ :: high =>
    if low.isEmpty && high.isEmpty then .error .noEnds
    else do
      let a ← if low.isEmpty then .ok 1 else position piece low
      if high.isEmpty then return (a, none)
      else
        let b ← position high high
        if b < a then throw .decreasing
        return (a, some b)

/-- The ranges of a list of positions. -/
def rangesOf (listed : Bytes) : Except RangeFault (List (Nat × Option Nat)) :=
  (Text.pieces (· == ',') (Bytes.text listed)).mapM rangeOf

/-- Whether a position lies in one of the ranges. -/
def inRanges (ranges : List (Nat × Option Nat)) (n : Nat) : Bool :=
  ranges.any (fun r => r.1 ≤ n && (match r.2 with
    | some high => n ≤ high
    | none => true))

/-- The pieces of bytes between separators. -/
def fieldsOf (separator : UInt8) (line : Bytes) : List Bytes :=
  line.foldr (fun b acc =>
    if b == separator then [] :: acc
    else match acc with
      | [] => [[b]]
      | field :: rest => (b :: field) :: rest) [[]]

/-- Shows chosen fields or positions of each line. -/
def cut : Program := fun name args => do
  let (options, operands) ← Options.get
    ⟨['s', 'n'], ['f', 'd', 'c', 'b'],
      [("fields", 'f'), ("delimiter", 'd'), ("characters", 'c'), ("bytes", 'b')]⟩ name args 1
  let lists := options.filter (fun o => ['f', 'c', 'b'].contains o.1)
  let (fields, listed) ← match lists with
    | [] => misuse name (bytesOf "you must specify a list of bytes, characters, or fields") 1
    | [(letter, listed)] => pure (letter == 'f', listed)
    | _ => misuse name (bytesOf "only one list may be specified") 1
  let separator ← match valueOf options 'd' with
    | none => pure 9
    | some [] => pure 0
    | some [one] => pure one
    | some _ => misuse name (bytesOf "the delimiter must be a single character") 1
  if !fields && given options 'd' then
    misuse name (bytesOf "an input delimiter may be specified only when operating on fields") 1
  if !fields && given options 's' then
    misuse name
      (bytesOf "suppressing non-delimited lines makes sense\n\tonly when operating on fields") 1
  let ranges ← match rangesOf listed with
    | .ok ranges => pure ranges
    | .error fault => misuse name (fault.message fields) 1
  let choose := fun (line : Bytes) =>
    if fields then
      let parts := fieldsOf separator line
      if parts.length ≤ 1 then (if given options 's' then none else some line)
      else some (Bytes.join [separator]
        ((parts.zipIdx.filter (fun e => inRanges ranges (e.2 + 1))).map Prod.fst))
    else some ((line.zipIdx.filter (fun e => inRanges ranges (e.2 + 1))).map Prod.fst)
  let ok ← forOperands name .plain readOperand
    (fun _ s => outLines ((linesOf s.bytes).filterMap choose)) (orInput operands)
  return codeOf ok

end LineShell.Userland
