import LineShell.Userland.Expression.Basic
import LineShell.Userland.Pattern
/-!
# Reading regular expressions

There are two ways of writing a regular expression: in the basic one groups, counts and alternatives
are marked by a backslash, in the extended one they are not. A program may also be tolerant of
operators that have nothing to repeat and of counts that are none.

`Expression.read` gives the expression, how many groups it has, and remarks about oddities.
-/

namespace LineShell.Userland

/-- A way of writing regular expressions. -/
structure Dialect where
  extended : Bool
  tolerant : Bool
  deriving DecidableEq, Repr

/-- Why a regular expression cannot be read. -/
inductive ExpressionFault where
  | invalid
  | unknownClass
  | unknownSymbol
  | loneBackslash
  | unknownGroup
  | openBracket
  | openGroup
  | closedGroup
  | openCount
  | wrongCount
  | wrongRange
  | tooBig
  | nothingToRepeat
  | bareClass
  deriving DecidableEq, Repr

/-- What is said about a regular expression that cannot be read. -/
def ExpressionFault.message : ExpressionFault → Bytes
  | invalid => bytesOf "Invalid regular expression"
  | unknownClass => bytesOf "Invalid character class name"
  | unknownSymbol => bytesOf "Invalid collation character"
  | loneBackslash => bytesOf "Trailing backslash"
  | unknownGroup => bytesOf "Invalid back reference"
  | openBracket => bytesOf "Unmatched [, [^, [:, [., or [="
  | openGroup => bytesOf "Unmatched ( or \\("
  | closedGroup => bytesOf "Unmatched ) or \\)"
  | openCount => bytesOf "Unmatched \\\x7b"
  | wrongCount => bytesOf "Invalid content of \\\x7b\\\x7d"
  | wrongRange => bytesOf "Invalid range end"
  | tooBig => bytesOf "Regular expression too big"
  | nothingToRepeat => bytesOf "Invalid preceding regular expression"
  | bareClass => bytesOf "character class syntax is [[:space:]], not [:space:]"

namespace Expression

/-- A regular expression that was read. -/
structure Written where
  expression : Expression
  groups : Nat
  remarks : List Bytes

/-- The parts of a written expression. -/
inductive Token where
  | byte (b : UInt8)
  | oneOf (s : ByteSet)
  | bracket
  | openGroup
  | closeGroup
  | bar
  | star
  | plus
  | question
  | openCount
  | closeCount
  | spot (s : Spot)
  | again (number : Nat)
  | loneBackslash
  deriving DecidableEq, Repr

/-- The byte that a sign stands for where it is no operator. -/
def Token.asByte? : Token → Option UInt8
  | .byte b => some b
  | .star => some (Userland.byte '*')
  | .plus => some (Userland.byte '+')
  | .question => some (Userland.byte '?')
  | .openCount => some 0x7b
  | .closeCount => some 0x7d
  | .closeGroup => some (Userland.byte ')')
  | _ => none

end Expression

namespace Dialect

open Expression (Token)

/-- The operator that a sign is, when it stands behind a backslash or not as the dialect wants. -/
def operator? (d : Dialect) (escaped : Bool) (c : Char) : Option Token :=
  if escaped == d.extended then none
  else match c with
    | '(' => some .openGroup
    | ')' => some .closeGroup
    | '|' => some .bar
    | '+' => some .plus
    | '?' => some .question
    | '\x7b' => some .openCount
    | '\x7d' => some .closeCount
    | _ => none

/-- What a sign behind a backslash means. -/
def escaped (d : Dialect) (b : UInt8) : Token :=
  let c := Char.ofNat b.toNat
  match d.operator? true c with
  | some t => t
  | none =>
    match c with
    | '<' => .spot .wordStart
    | '>' => .spot .wordEnd
    | 'b' => .spot .wordEdge
    | 'B' => .spot .noWordEdge
    | '`' => .spot .textStart
    | '\'' => .spot .textEnd
    | 'w' => .oneOf .ofWords
    | 'W' => .oneOf ByteSet.ofWords.others
    | 's' => .oneOf .blanks
    | 'S' => .oneOf ByteSet.blanks.others
    | _ => if '1' ≤ c && c ≤ '9' then .again (c.toNat - 48) else .byte b

/-- Whether a group or an alternative ends here, or the whole. -/
def endsBranch (d : Dialect) : Bytes → Bool
  | [] => true
  | 0x5c :: b :: _ => !d.extended && (b = byte ')' || b = byte '|')
  | b :: _ => d.extended && (b = byte ')' || b = byte '|')

/-- The first part of what is left. A caret is the beginning of a line where `anchored` says so, and
a dollar sign the end of one before the end of a branch; in the extended dialect they are so
everywhere. -/
def next? (d : Dialect) (anchored : Bool) : Bytes → Option (Token × Bytes)
  | [] => none
  | [0x5c] => some (.loneBackslash, [])
  | 0x5c :: b :: rest => some (d.escaped b, rest)
  | b :: rest =>
    let c := Char.ofNat b.toNat
    match d.operator? false c with
    | some t => some (t, rest)
    | none =>
      match c with
      | '*' => some (.star, rest)
      | '.' => some (.oneOf .all, rest)
      | '[' => some (.bracket, rest)
      | '^' => some (if d.extended || anchored then .spot .lineStart else .byte b, rest)
      | '$' => some (if d.extended || d.endsBranch rest then .spot .lineEnd else .byte b, rest)
      | _ => some (.byte b, rest)

end Dialect

namespace Expression

/-! ### Brackets -/

/-- One member of a set in brackets. -/
inductive Member where
  | one (b : UInt8)
  | many (ranges : List (UInt8 × UInt8))

/-- The name inside `[:`, `[.` or `[=` up to its end, and what is left behind it. -/
def symbol? (sign : UInt8) : Bytes → Option (Bytes × Bytes)
  | [] => none
  | b :: rest =>
    if b = sign && rest.head? = some 0x5d then some ([], rest.drop 1)
    else (symbol? sign rest).map (fun r => (b :: r.1, r.2))

/-- The first member of what is left. A hyphen that is not `admitted` is one only before the end. -/
def member (admitted : Bool) : Bytes → Except ExpressionFault (Member × Bytes)
  | [] => .error .openBracket
  | 0x5b :: sign :: rest =>
    if sign = byte ':' || sign = byte '.' || sign = byte '=' then
      match symbol? sign rest with
      | none => .error .openBracket
      | some (name, rest) =>
        if sign = byte ':' then
          match Pattern.classRanges? name with
          | some ranges => .ok (.many ranges, rest)
          | none => .error .unknownClass
        else match name with
          | [b] => .ok (if sign = byte '=' then .many [(b, b)] else .one b, rest)
          | _ => .error .unknownSymbol
    else .ok (.one 0x5b, sign :: rest)
  | 0x2d :: b :: rest =>
    if !admitted && b != 0x5d then .error .wrongRange else .ok (.one 0x2d, b :: rest)
  | b :: rest => .ok (.one b, rest)

/-- The ranges in brackets up to the closing one, and what is left behind it. -/
def members : Nat → Bool → Bytes → Except ExpressionFault (List (UInt8 × UInt8) × Bytes)
  | 0, _, _ => .error .openBracket
  | fuel + 1, admitted, bytes => do
    let (m, rest) ← member admitted bytes
    let (found, rest, admitsNext) ← match m, rest with
      | .many ranges, rest => .ok (ranges, rest, false)
      | .one _, [] => .error .openBracket
      | .one _, [0x2d] => .error .openBracket
      | .one first, 0x2d :: b :: behind =>
        if b = 0x5d then .ok ([(first, first)], rest, true)
        else do
          let (last, rest) ← member true (b :: behind)
          match last with
          | .one last =>
            if last < first then .error .wrongRange else .ok ([(first, last)], rest, false)
          | .many _ => .error .wrongRange
      | .one first, rest => .ok ([(first, first)], rest, false)
    match rest with
    | [] => .error .openBracket
    | 0x5d :: rest => .ok (found, rest)
    | _ =>
      let (others, rest) ← members fuel admitsNext rest
      .ok (found ++ others, rest)

/-- Whether brackets look like a class whose own brackets were forgotten. -/
def isBareClass (inside : Bytes) : Bool :=
  2 < inside.length && inside.head? == some (byte ':') && inside.getLast? == some (byte ':') &&
    ((inside.drop 1).dropLast).all (fun b => 97 ≤ b && b ≤ 122)

/-- The set in brackets, behind the opening one, and what is left behind the closing one. -/
def bracketed (d : Dialect) (bytes : Bytes) : Except ExpressionFault (ByteSet × Bytes) := do
  let negative := bytes.head? = some (byte '^')
  let inside := if negative then bytes.drop 1 else bytes
  match inside with
  | [] => .error .invalid
  | 0x5d :: rest =>
    -- A closing bracket in the first place is a member.
    let (ranges, left) ← members (rest.length + 2) true (0x5d :: rest)
    .ok (⟨negative, ranges⟩, left)
  | inside =>
    let (ranges, left) ← members (inside.length + 1) true inside
    if d.tolerant && !negative &&
        isBareClass (inside.take (inside.length - left.length - 1)) then .error .bareClass
    else .ok (⟨negative, ranges⟩, left)

/-! ### Counts -/

/-- The largest count. -/
def countLimit : Nat := 32767

/-- What stands where a count may be. -/
inductive Interval where
  | between (least : Nat) (most : Option Nat) (rest : Bytes)
  | fault (e : ExpressionFault)
  | none (e : ExpressionFault)

/-- The bytes up to a comma or the end of a count, whether it ends there, and what is left. -/
def upToCountEnd (d : Dialect) : Bytes → Option (Bytes × Bool × Bytes)
  | [] => none
  | 0x5c :: 0x7d :: rest =>
    if d.extended then (upToCountEnd d rest).map (fun r => (0x5c :: 0x7d :: r.1, r.2))
    else some ([], true, rest)
  | b :: rest =>
    if b = 0x2c then some ([], false, rest)
    else if d.extended && b = 0x7d then some ([], true, rest)
    else (upToCountEnd d rest).map (fun r => (b :: r.1, r.2))

/-- The number that digits say, the empty word saying none. -/
def countOf? (digits : Bytes) : Option (Option Nat) :=
  if digits.isEmpty then some none
  else (Text.toNat? (Bytes.text digits)).map some

/-- The count behind its opening sign. -/
def interval (d : Dialect) (bytes : Bytes) : Interval :=
  match upToCountEnd d bytes with
  | none => .none .openCount
  | some (first, alone, rest) =>
    match countOf? first, alone with
    | none, _ => .none .wrongCount
    | some none, true => .fault .wrongCount
    | some (some n), true => if countLimit < n then .fault .tooBig else .between n (some n) rest
    | some least, false =>
      match upToCountEnd d rest with
      | none => .none .openCount
      | some (second, closed, rest) =>
        match countOf? second with
        | none => .none .wrongCount
        | some most =>
          let least := least.getD 0
          if !closed || most.any (· < least) then .fault .wrongCount
          else if countLimit < most.getD least then .fault .tooBig
          else .between least most rest

/-! ### The expression -/

/-- What is left to read, and what has been met. -/
structure Reading where
  rest : Bytes
  groups : Nat
  complete : List Nat
  remarks : List Bytes

/-- A step of reading. -/
abbrev Read := StateT Reading (Except ExpressionFault)

/-- One expression behind another. -/
def append : Expression → Expression → Expression
  | .empty, e => e
  | e, .empty => e
  | a, b => .sequence a b

/-- Notes a remark. -/
def remark (message : Bytes) : Read Unit :=
  modify fun r => { r with remarks := r.remarks ++ [message] }

/-- Goes on behind a part. -/
def goOn (rest : Bytes) : Read Unit := modify fun r => { r with rest := rest }

/-- Whether an asterisk or a count may stand behind another operator. -/
def admitsSecond (d : Dialect) (t : Token) : Bool :=
  d.extended || d.tolerant || (t != .star && t != .openCount)

/-- Reads operators behind an expression; `isFirst` says that it has none yet. -/
def repetitions (d : Dialect) : Nat → Bool → Expression → Read Expression
  | 0, _, e => return e
  | fuel + 1, isFirst, e => do
    match d.next? false (← get).rest with
    | none => return e
    | some (t, rest) =>
      if !isFirst && !admitsSecond d t then throw .nothingToRepeat
      else match t with
        | .star => goOn rest; repetitions d fuel false (.repeated e 0 none)
        | .plus => goOn rest; repetitions d fuel false (.repeated e 1 none)
        | .question => goOn rest; repetitions d fuel false (.repeated e 0 (some 1))
        | .openCount =>
          match interval d rest with
          | .between least most rest =>
            goOn rest
            repetitions d fuel false (.repeated e least most)
          | .fault fault => throw fault
          | .none fault => if d.tolerant && d.extended then return e else throw fault
        | _ => return e

/-- The remark about an operator that has nothing to repeat. -/
def idleRemark : Token → Bytes
  | .star => bytesOf "* at start of expression"
  | .plus => bytesOf "+ at start of expression"
  | .question => bytesOf "? at start of expression"
  | _ => bytesOf "\x7b...\x7d at start of expression"

/-- Whether a sign is an operator that repeats. -/
def Token.repeats (t : Token) : Bool :=
  t = .star || t = .plus || t = .question || t = .openCount

/-- Whether an operator that has nothing to repeat is taken as one all the same. Otherwise it is a
byte. -/
def repeatsNothing (d : Dialect) (t : Token) (rest : Bytes) : Bool :=
  d.extended && match t, interval d rest with
    | .openCount, .between _ _ _ => true
    | .openCount, _ => false
    | _, _ => true

/-- Whether a group is closed right behind operators, of which there must be one unless `some_`. -/
def closesBehind (d : Dialect) : Nat → Bool → Bytes → Bool
  | 0, _, _ => false
  | fuel + 1, some_, bytes =>
    match d.next? false bytes with
    | some (.closeGroup, _) => some_
    | some (t, rest) => t.repeats && closesBehind d fuel true rest
    | none => false

/-- Fails where operators with nothing to repeat hide the end of a group. -/
def refuseHiddenEnd (d : Dialect) (nest : Nat) : Read Unit := do
  let rest := (← get).rest
  if d.extended && d.tolerant && 0 < nest && closesBehind d (rest.length + 1) false rest then
    throw .openGroup

mutual

/-- Reads alternatives up to the end of a group or of the whole, `nest` groups deep. -/
def alternatives (d : Dialect) : Nat → Nat → Read Expression
  | 0, _ => throw .tooBig
  | fuel + 1, nest => do
    let complete := (← get).complete
    let first ← branch d fuel nest true true .empty
    otherAlternatives d fuel nest complete first

/-- Reads alternatives behind a first one. Each of them knows the groups from before all of
them. -/
def otherAlternatives (d : Dialect) : Nat → Nat → List Nat → Expression → Read Expression
  | 0, _, _, _ => throw .tooBig
  | fuel + 1, nest, complete, first => do
    match d.next? false (← get).rest with
    | some (.bar, rest) =>
      let met := (← get).complete
      modify fun r => { r with rest := rest, complete := complete }
      let second ← branch d fuel nest true true .empty
      modify fun r => { r with complete := met ++ r.complete }
      otherAlternatives d fuel nest complete (.either first second)
    | _ => return first

/-- Reads one alternative. `opens` says that an operator would have nothing to repeat, and
`anchored` that a caret is the beginning of a line. -/
def branch (d : Dialect) : Nat → Nat → Bool → Bool → Expression → Read Expression
  | 0, _, _, _, _ => throw .tooBig
  | fuel + 1, nest, opens, anchored, before => do
    match d.next? anchored (← get).rest with
    | none | some (.bar, _) => return before
    | some (.loneBackslash, _) => throw .loneBackslash
    | some (.spot s, rest) =>
      goOn rest
      refuseHiddenEnd d nest
      if !d.tolerant then branch d fuel nest true false (append before (.spot s))
      else if opens then idle d fuel nest before (.spot s)
      else piece d fuel nest before (.spot s)
    | some (.closeGroup, rest) =>
      if 0 < nest then return before
      else if d.tolerant && d.extended then
        goOn rest
        piece d fuel nest before (.oneOf (.single (byte ')')))
      else throw .closedGroup
    | some (.openGroup, rest) =>
      let number := (← get).groups + 1
      modify fun r => { r with rest := rest, groups := number }
      let inside ← alternatives d fuel (nest + 1)
      match d.next? false (← get).rest with
      | some (.closeGroup, rest) =>
        modify fun r => { r with rest := rest, complete := number :: r.complete }
        piece d fuel nest before (.group number inside)
      | _ => throw .openGroup
    | some (.again number, rest) =>
      if (← get).complete.contains number then
        goOn rest
        piece d fuel nest before (.again number)
      else throw .unknownGroup
    | some (.oneOf s, rest) =>
      goOn rest
      piece d fuel nest before (.oneOf s)
    | some (.bracket, rest) =>
      let (s, rest) ← (bracketed d rest : Except ExpressionFault _)
      goOn rest
      piece d fuel nest before (.oneOf s)
    | some (t, rest) =>
      if t.repeats && opens && !d.tolerant && (d.extended || t = .openCount) then
        throw .nothingToRepeat
      else if t.repeats && opens && repeatsNothing d t rest then
        refuseHiddenEnd d nest
        idle d fuel nest before .empty
      else
        if t.repeats && opens then refuseHiddenEnd d nest
        goOn rest
        piece d fuel nest before (.oneOf (.single (t.asByte?.getD 0)))

/-- Reads operators that have nothing, or only a spot, to repeat, and remarks it. -/
def idle (d : Dialect) : Nat → Nat → Expression → Expression → Read Expression
  | 0, _, _, _ => throw .tooBig
  | fuel + 1, nest, before, e => do
    let rest := (← get).rest
    match d.next? false rest with
    | some (t, behind) =>
      if t.repeats && repeatsNothing d t behind then
        remark (idleRemark t)
        let (count, rest) : (Nat × Option Nat) × Bytes := match t, interval d behind with
          | .plus, _ => ((1, none), behind)
          | .question, _ => ((0, some 1), behind)
          | .openCount, .between least most rest => ((least, most), rest)
          | _, _ => ((0, none), behind)
        goOn rest
        idle d fuel nest before (.repeated e count.1 count.2)
      else branch d fuel nest true false (append before e)
    | none => return append before e

/-- Reads the operators behind a part, and then the parts that follow. -/
def piece (d : Dialect) : Nat → Nat → Expression → Expression → Read Expression
  | 0, _, _, _ => throw .tooBig
  | fuel + 1, nest, before, e => do
    let e ← repetitions d ((← get).rest.length + 1) true e
    branch d fuel nest false false (append before e)

end

/-- Reads an expression. -/
def read (d : Dialect) (bytes : Bytes) : Except ExpressionFault Written := do
  let (e, r) ← (alternatives d (4 * bytes.length + 8) 0).run ⟨bytes, 0, [], []⟩
  .ok ⟨e, r.groups, r.remarks⟩

end Expression

end LineShell.Userland
