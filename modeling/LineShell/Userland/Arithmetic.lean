import LineShell.Userland.Format
/-!
# Integer expressions

Formulas over integers of 64 bits, with variables that may be assigned to. `Formula.parse`
reads one by levels of precedence, and `Formula.value` evaluates it; what decides a condition is
evaluated before its sides, and only one side of it is.
-/

namespace LineShell.Userland

/-- How many integers there are. -/
def wordCount : Nat := 18446744073709551616

/-- The integer of 64 bits that a number wraps around to. -/
def wrapped (n : Int) : Int := Int.bmod n wordCount

/-- Operators between two operands. -/
inductive Operator where
  | times
  | over
  | remainder
  | plus
  | minus
  | shiftLeft
  | shiftRight
  | less
  | atMost
  | greater
  | atLeast
  | equal
  | different
  | bitAnd
  | bitExclusive
  | bitOr
  | and
  | or
  deriving DecidableEq, Repr

/-- An expression. -/
inductive Formula where
  | number (n : Int)
  | variable (name : Bytes)
  | negative (e : Formula)
  | not (e : Formula)
  | complement (e : Formula)
  | binary (op : Operator) (a b : Formula)
  | choice (condition yes no : Formula)
  /-- With an operator the former value is the left operand. -/
  | assignment (name : Bytes) (op : Option Operator) (e : Formula)
  deriving DecidableEq, Repr

/-- Why an expression has no value. -/
inductive FormulaFault where
  | noPrimary
  | noParenthesis
  | noColon
  | noEnd
  | divisionByZero
  deriving DecidableEq, Repr

/-- The wording of a fault. -/
def FormulaFault.message : FormulaFault → Bytes
  | .noPrimary => bytesOf "expecting primary"
  | .noParenthesis => bytesOf "expecting ')'"
  | .noColon => bytesOf "expecting ':'"
  | .noEnd => bytesOf "expecting EOF"
  | .divisionByZero => bytesOf "division by zero"

/-! ### Numbers -/

/-- The natural number at the beginning, in the base that its first digits tell, and the rest. -/
def leadingNatural (bytes : Bytes) : Nat × Bytes :=
  let isHex := fun (b : UInt8) => (hexValue? b).isSome
  let decimal := fun (b : UInt8) => 48 ≤ b && b ≤ 57
  let cut := fun (base : Nat) (p : UInt8 → Bool) (bytes : Bytes) =>
    let digits := bytes.takeWhile p
    (numeral base digits, bytes.drop digits.length)
  match bytes with
  | 0x30 :: x :: d :: _ =>
    if (x == byte 'x' || x == byte 'X') && isHex d then cut 16 isHex (bytes.drop 2)
    else cut 8 isOctal bytes
  | 0x30 :: _ => cut 8 isOctal bytes
  | _ => cut 10 decimal bytes

/-- The integer that a whole word writes; blanks may stand around it. -/
def wordInteger? (word : Bytes) : Option Int :=
  let body := word.dropWhile isSpace
  let (negative, digits) := match body with
    | 0x2d :: rest => (true, rest)
    | 0x2b :: rest => (false, rest)
    | _ => (false, body)
  let (n, rest) := leadingNatural digits
  if rest.length = digits.length || !rest.all isSpace then none
  else some (if negative then max (-(n : Int)) (-9223372036854775808)
    else min (n : Int) 9223372036854775807)

/-! ### Reading -/

/-- What an expression is cut into. -/
inductive Symbol where
  | number (n : Int)
  | name (n : Bytes)
  | sign (s : String)
  /-- A byte that begins nothing. -/
  | other
  deriving DecidableEq, Repr

/-- All signs, the longer ones first. -/
def signs : List String :=
  ["<<=", ">>=", "<<", ">>", "<=", ">=", "==", "!=", "&&", "||", "+=", "-=", "*=", "/=", "%=",
    "&=", "^=", "|=", "<", ">", "&", "^", "|", "+", "-", "*", "/", "%", "!", "~", "(", ")", "?",
    ":", "="]

/-- Cuts an expression. -/
def symbols : Nat → Bytes → List Symbol
  | 0, _ => []
  | fuel + 1, bytes =>
    match bytes with
    | [] => []
    | b :: rest =>
      let isLetter := fun (b : UInt8) => (Char.ofNat b.toNat).isAlpha || b == byte '_'
      let isDigit := fun (b : UInt8) => 48 ≤ b && b ≤ 57
      if isSpace b then symbols fuel rest
      else if isDigit b then
        let (n, rest) := leadingNatural bytes
        .number (min n 9223372036854775807) :: symbols fuel rest
      else if isLetter b then
        let name := bytes.takeWhile (fun b => isLetter b || isDigit b)
        .name name :: symbols fuel (bytes.drop name.length)
      else match signs.find? (fun s => (bytesOf s).isPrefixOf bytes) with
        | some s => .sign s :: symbols fuel (bytes.drop s.length)
        | none => .other :: symbols fuel rest

/-- The operators by their signs, those that bind tightest first. -/
def levels : List (List (String × Operator)) :=
  [[("*", .times), ("/", .over), ("%", .remainder)], [("+", .plus), ("-", .minus)],
    [("<<", .shiftLeft), (">>", .shiftRight)],
    [("<", .less), ("<=", .atMost), (">", .greater), (">=", .atLeast)],
    [("==", .equal), ("!=", .different)], [("&", .bitAnd)], [("^", .bitExclusive)],
    [("|", .bitOr)], [("&&", .and)], [("||", .or)]]

/-- The operator of an assignment sign; none for the plain one. -/
def assignmentOperator? : String → Option (Option Operator)
  | "=" => some none
  | "*=" => some (some .times)
  | "/=" => some (some .over)
  | "%=" => some (some .remainder)
  | "+=" => some (some .plus)
  | "-=" => some (some .minus)
  | "<<=" => some (some .shiftLeft)
  | ">>=" => some (some .shiftRight)
  | "&=" => some (some .bitAnd)
  | "^=" => some (some .bitExclusive)
  | "|=" => some (some .bitOr)
  | _ => none

namespace Formula

/-- An expression read and the symbols behind it. -/
abbrev Read := Except FormulaFault (Formula × List Symbol)

mutual

/-- Reads an expression that may be an assignment. -/
def readAssignment : Nat → List Symbol → Read
  | 0, _ => .error .noPrimary
  | fuel + 1, symbols =>
    match symbols with
    | .name name :: .sign s :: rest =>
      match assignmentOperator? s with
      | some op => do
        let (e, rest) ← readAssignment fuel rest
        return (.assignment name op e, rest)
      | none => readChoice fuel symbols
    | _ => readChoice fuel symbols

/-- Reads an expression that may be a choice. -/
def readChoice : Nat → List Symbol → Read
  | 0, _ => .error .noPrimary
  | fuel + 1, symbols => do
    let (condition, rest) ← readLevel fuel levels.reverse symbols
    match rest with
    | .sign "?" :: rest =>
      let (yes, rest) ← readAssignment fuel rest
      match rest with
      | .sign ":" :: rest =>
        let (no, rest) ← readChoice fuel rest
        return (.choice condition yes no, rest)
      | _ => throw .noColon
    | _ => return (condition, rest)

/-- Reads operands with the operators of the first level between them. -/
def readLevel : Nat → List (List (String × Operator)) → List Symbol → Read
  | 0, _, _ => .error .noPrimary
  | fuel + 1, [], symbols => readPrimary fuel symbols
  | fuel + 1, level :: tighter, symbols => do
    let (first, rest) ← readLevel fuel tighter symbols
    readBehind fuel level tighter first rest

/-- Reads what operators of a level put behind an operand. -/
def readBehind : Nat → List (String × Operator) → List (List (String × Operator)) → Formula →
    List Symbol → Read
  | 0, _, _, first, symbols => .ok (first, symbols)
  | fuel + 1, level, tighter, first, symbols =>
    match symbols with
    | .sign s :: rest =>
      match level.lookup s with
      | some op => do
        let (second, rest) ← readLevel fuel tighter rest
        readBehind fuel level tighter (.binary op first second) rest
      | none => .ok (first, symbols)
    | _ => .ok (first, symbols)

/-- Reads an operand. -/
def readPrimary : Nat → List Symbol → Read
  | 0, _ => .error .noPrimary
  | fuel + 1, symbols =>
    match symbols with
    | .number n :: rest => .ok (.number n, rest)
    | .name name :: rest => .ok (.variable name, rest)
    | .sign "(" :: rest => do
      let (e, rest) ← readAssignment fuel rest
      match rest with
      | .sign ")" :: rest => return (e, rest)
      | _ => throw .noParenthesis
    | .sign "+" :: rest => readPrimary fuel rest
    | .sign "-" :: rest => (readPrimary fuel rest).map (fun r => (.negative r.1, r.2))
    | .sign "!" :: rest => (readPrimary fuel rest).map (fun r => (.not r.1, r.2))
    | .sign "~" :: rest => (readPrimary fuel rest).map (fun r => (.complement r.1, r.2))
    | _ => .error .noPrimary

end

/-- Reads a whole expression; nothing at all writes zero. -/
def parse (written : Bytes) : Except FormulaFault Formula := do
  let all := symbols (written.length + 1) written
  if all.isEmpty then return .number 0
  -- Each symbol is passed by at most one reader of every level.
  let (e, rest) ← readAssignment (16 * all.length + 16) all
  if rest.isEmpty then return e else throw .noEnd

/-! ### Values -/

/-- The bits of an integer as a natural number. -/
def bits (n : Int) : Nat := (n % (wordCount : Int)).toNat

/-- A truth value as a number. -/
def ofBool (b : Bool) : Int := if b then 1 else 0

/-- The value of an operator. -/
def apply (op : Operator) (a b : Int) : Except FormulaFault Int :=
  let shift := bits b % 64
  match op with
  | .times => .ok (wrapped (a * b))
  | .over => if b = 0 then .error .divisionByZero else .ok (wrapped (Int.tdiv a b))
  | .remainder => if b = 0 then .error .divisionByZero else .ok (Int.tmod a b)
  | .plus => .ok (wrapped (a + b))
  | .minus => .ok (wrapped (a - b))
  | .shiftLeft => .ok (wrapped (a * (Nat.pow 2 shift : Nat)))
  | .shiftRight => .ok (Int.fdiv a (Nat.pow 2 shift : Nat))
  | .less => .ok (ofBool (a < b))
  | .atMost => .ok (ofBool (a ≤ b))
  | .greater => .ok (ofBool (b < a))
  | .atLeast => .ok (ofBool (b ≤ a))
  | .equal => .ok (ofBool (a = b))
  | .different => .ok (ofBool (a ≠ b))
  | .bitAnd => .ok (wrapped (Nat.land (bits a) (bits b)))
  | .bitExclusive => .ok (wrapped (Nat.xor (bits a) (bits b)))
  | .bitOr => .ok (wrapped (Nat.lor (bits a) (bits b)))
  | .and => .ok (ofBool (a ≠ 0 && b ≠ 0))
  | .or => .ok (ofBool (a ≠ 0 || b ≠ 0))

/-- The value of an expression, where `read` and `write` say what variables hold. -/
def value {m : Type → Type} [Monad m] (read : Bytes → m Int) (write : Bytes → Int → m Unit) :
    Formula → ExceptT FormulaFault m Int
  | .number n => return n
  | .variable name => read name
  | .negative e => return wrapped (-(← value read write e))
  | .not e => return ofBool ((← value read write e) = 0)
  | .complement e => return -(← value read write e) - 1
  | .binary .and a b => do
    if (← value read write a) = 0 then return 0
    else return ofBool ((← value read write b) ≠ 0)
  | .binary .or a b => do
    if (← value read write a) ≠ 0 then return 1
    else return ofBool ((← value read write b) ≠ 0)
  | .binary op a b => do
    let a ← value read write a
    let b ← value read write b
    ExceptT.mk (pure (apply op a b))
  | .choice condition yes no => do
    if (← value read write condition) ≠ 0 then value read write yes else value read write no
  | .assignment name op e => do
    let old ← match op with
      | some _ => (read name : m Int)
      | none => pure 0
    let new ← value read write e
    let result ← match op with
      | some op => ExceptT.mk (pure (apply op old new))
      | none => pure new
    (write name result : m Unit)
    return result

end Formula

end LineShell.Userland
