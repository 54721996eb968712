import LineShell.Userland.Format
/-!
# Conditions

`test` evaluates a condition that its arguments write. `Condition.ofWords` reads the arguments: up
to four of them are told apart by their number, so that any word may be an operand; more are read by
a grammar in which `-a` binds tighter than `-o`. `Condition.holds` evaluates.
-/

namespace LineShell.Userland

/-- A condition about words and files. -/
inductive Condition where
  | nonempty (word : Bytes)
  | unary (operator operand : Bytes)
  | binary (left operator right : Bytes)
  | not (c : Condition)
  | both (a b : Condition)
  | either (a b : Condition)

/-- Why words write no condition, or why one has no value. -/
inductive ConditionFault where
  /-- Something must follow a word. -/
  | missing (word : Bytes)
  | noUnary (word : Bytes)
  | noBinary (word : Bytes)
  | extra (word : Bytes)
  /-- A parenthesis is not closed by the word found instead. -/
  | unclosed (found : Option Bytes)
  | noInteger (word : Bytes)

namespace Condition

/-- Operators in front of one word. -/
def isUnary (word : Bytes) : Bool :=
  match word with
  | [0x2d, letter] => (bytesOf "bcdefgGhkLNnOprsStuwxz").contains letter
  | _ => false

/-- Operators between two words. -/
def isBinary (word : Bytes) : Bool :=
  ["=", "==", "!=", "-eq", "-ne", "-lt", "-le", "-gt", "-ge", "-nt", "-ot", "-ef"].any
    (fun operator => bytesOf operator == word)

/-- Whether a word is a dash and one more byte. -/
def looksUnary (word : Bytes) : Bool := word.length = 2 && word.head? == some (byte '-')

/-- A condition read and the words behind it. -/
abbrev Reading := Except ConditionFault (Condition × List Bytes)

/-- A condition of two words. -/
def ofTwo (last a b : Bytes) : Except ConditionFault Condition :=
  if a = bytesOf "!" then .ok (.not (.nonempty b))
  else if looksUnary a then (if isUnary a then .ok (.unary a b) else .error (.noUnary a))
  else .error (.missing last)

mutual

/-- Reads the first words, so many of them, as a condition. -/
def readCounted (last : Bytes) : Nat → List Bytes → Nat → Reading
  | 0, _, _ => .error (.missing last)
  | fuel + 1, words, count =>
    match count, words with
    | 1, a :: rest => .ok (.nonempty a, rest)
    | 2, a :: b :: rest => (ofTwo last a b).map (fun c => (c, rest))
    | 3, a :: b :: c :: rest =>
      if isBinary b then .ok (.binary a b c, rest)
      else if a = bytesOf "!" then (ofTwo last b c).map (fun d => (.not d, rest))
      else if a = bytesOf "(" && c = bytesOf ")" then .ok (.nonempty b, rest)
      else if b = bytesOf "-a" || b = bytesOf "-o" then readEither last fuel words
      else .error (.noBinary b)
    | 4, a :: b :: c :: d :: rest =>
      if a = bytesOf "!" then
        (readCounted last fuel (b :: c :: d :: rest) 3).map (fun r => (.not r.1, r.2))
      else if a = bytesOf "(" && d = bytesOf ")" then
        (ofTwo last b c).map (fun e => (e, rest))
      else readEither last fuel words
    | _, _ => readEither last fuel words

/-- Reads conditions between which `-o` stands. -/
def readEither (last : Bytes) : Nat → List Bytes → Reading
  | 0, _ => .error (.missing last)
  | fuel + 1, words => do
    let (a, rest) ← readBoth last fuel words
    match rest with
    | operator :: rest =>
      if operator = bytesOf "-o" then
        let (b, rest) ← readEither last fuel rest
        return (.either a b, rest)
      else return (a, operator :: rest)
    | [] => return (a, [])

/-- Reads conditions between which `-a` stands. -/
def readBoth (last : Bytes) : Nat → List Bytes → Reading
  | 0, _ => .error (.missing last)
  | fuel + 1, words => do
    let (a, rest) ← readTerm last fuel words
    match rest with
    | operator :: rest =>
      if operator = bytesOf "-a" then
        let (b, rest) ← readBoth last fuel rest
        return (.both a b, rest)
      else return (a, operator :: rest)
    | [] => return (a, [])

/-- Reads one condition without `-a` and `-o` outside of parentheses. -/
def readTerm (last : Bytes) : Nat → List Bytes → Reading
  | 0, _ => .error (.missing last)
  | fuel + 1, words =>
    match words with
    | [] => .error (.missing last)
    | a :: rest =>
      if a = bytesOf "!" then
        if rest.isEmpty then .error (.missing last)
        else (readTerm last fuel rest).map (fun r => (.not r.1, r.2))
      else if a = bytesOf "(" then
        if rest.isEmpty then .error (.missing last)
        else
          -- A group is read by its number of words if it is closed behind at most three.
          let inside := ((rest.drop 1).take 3).takeWhile (· != bytesOf ")")
          let count := if inside.length = 3 then rest.length else inside.length + 1
          match readCounted last fuel rest count with
          | .error fault => .error fault
          | .ok (c, close :: rest) =>
            if close = bytesOf ")" then .ok (c, rest) else .error (.unclosed (some close))
          | .ok (_, []) => .error (.unclosed none)
      else match rest with
        | operator :: b :: more =>
          if isBinary operator then .ok (.binary a operator b, more)
          else if looksUnary a then
            if isUnary a then .ok (.unary a operator, b :: more) else .error (.noUnary a)
          else .ok (.nonempty a, rest)
        | _ =>
          if looksUnary a then
            if isUnary a then
              match rest with
              | operand :: more => .ok (.unary a operand, more)
              | [] => .error (.missing last)
            else .error (.noUnary a)
          else .ok (.nonempty a, rest)

end

/-- Reads all words as a condition; no words write one that never holds. -/
def ofWords (words : List Bytes) : Except ConditionFault Condition :=
  match words with
  | [] => .ok (.nonempty [])
  | _ =>
    let last := words.getLast?.getD []
    -- Every word is passed by at most four of the readers.
    match readCounted last (4 * words.length + 4) words words.length with
    | .error fault => .error fault
    | .ok (c, []) => .ok c
    | .ok (_, word :: _) => .error (.extra word)

/-- Whether a condition about one word holds. -/
def holdsUnary (operator operand : Bytes) : Run Bool := do
  let node := (← nodeAt true operand).toOption.map Prod.snd
  let isKind := fun (p : NodeKind → Bool) => node.any (fun n => p n.kind)
  let allows := fun (r : Right) => node.any (fun n => n.permissions.allows r)
  let hasBit := fun (bit : Nat) => node.any (fun n => n.permissions.bits / bit % 2 == 1)
  match String.ofList (Bytes.text operator) with
  | "-n" => return !operand.isEmpty
  | "-z" => return operand.isEmpty
  | "-e" => return node.isSome
  | "-r" => return allows .read
  | "-w" => return allows .write
  | "-x" => return allows .execute
  | "-O" | "-G" => return node.any (fun n => n.permissions.owned)
  | "-u" => return hasBit 2048
  | "-g" => return hasBit 1024
  | "-k" => return hasBit 512
  | "-d" => return node.any Node.isDirectory
  | "-f" => return isKind (fun k => match k with
    | .file _ | .program _ => true
    | _ => false)
  | "-c" => return isKind (fun k => match k with
    | .device _ => true
    | _ => false)
  | "-s" => return isKind (fun k => match k with
    | .file content => !content.isEmpty
    | .program _ | .directory .. => true
    | _ => false)
  | "-L" | "-h" => return (← nodeAt false operand).toOption.any (fun found => found.2.isLink)
  | "-t" =>
    let c ← (get : Call Context)
    let channel := do
      let h ← Table.get? (← Text.toNat? (Bytes.text operand)) c.self.descriptors
      return (← c.machine.description? h.description).channel
    return channel == some .terminal
  | _ => return false

/-- An integer among blanks. -/
def integer (word : Bytes) : Except ConditionFault Int :=
  match integer? (Bytes.dropEndWhile isSpace (word.dropWhile isSpace)) with
  | some n => .ok n
  | none => .error (.noInteger word)

/-- Whether a condition about two words holds. With `missingIsOld` a file that is there is newer than
one that is not. -/
def holdsBinary (missingIsOld : Bool) (left operator right : Bytes) :
    Run (Except ConditionFault Bool) := do
  let numbers := fun (p : Int → Int → Bool) => do
    let a ← integer left
    let b ← integer right
    return p a b
  let a := (← nodeAt true left).toOption.map Prod.fst
  let b := (← nodeAt true right).toOption.map Prod.fst
  return match String.ofList (Bytes.text operator) with
    | "!=" => .ok (left != right)
    | "-eq" => numbers (fun a b => a == b)
    | "-ne" => numbers (fun a b => a != b)
    | "-lt" => numbers (fun a b => a < b)
    | "-le" => numbers (fun a b => a ≤ b)
    | "-gt" => numbers (fun a b => b < a)
    | "-ge" => numbers (fun a b => b ≤ a)
    | "-ef" => .ok (a.isSome && a == b)
    | "-nt" => .ok (missingIsOld && a.isSome && b.isNone)
    | "-ot" => .ok (missingIsOld && a.isNone && b.isSome)
    | _ => .ok (left == right)

/-- Whether a condition holds. Both sides of `-a` and `-o` are evaluated. -/
def holds (missingIsOld : Bool) : Condition → Run (Except ConditionFault Bool)
  | .nonempty word => return .ok (!word.isEmpty)
  | .unary operator operand => return .ok (← holdsUnary operator operand)
  | .binary left operator right => holdsBinary missingIsOld left operator right
  | .not c => return (← holds missingIsOld c).map Bool.not
  | .both a b => do
    let x ← holds missingIsOld a
    let y ← holds missingIsOld b
    return x.bind (fun x => y.map (fun y => x && y))
  | .either a b => do
    let x ← holds missingIsOld a
    let y ← holds missingIsOld b
    return x.bind (fun x => y.map (fun y => x || y))

end Condition

/-- How the program words a fault. -/
def ConditionFault.message : ConditionFault → Bytes
  | .missing word => bytesOf "missing argument after " ++ Quoting.word word
  | .noUnary word => Quoting.word word ++ bytesOf ": unary operator expected"
  | .noBinary word => Quoting.word word ++ bytesOf ": binary operator expected"
  | .extra word => bytesOf "extra argument " ++ Quoting.word word
  | .unclosed none => bytesOf "')' expected"
  | .unclosed (some found) => bytesOf "')' expected, found " ++ found
  | .noInteger word => bytesOf "invalid integer " ++ Quoting.word word

/-- The value of the condition that words write. -/
def conditionValue (missingIsOld : Bool) (words : List Bytes) : Run (Except ConditionFault Bool) :=
  match Condition.ofWords words with
  | .error fault => return .error fault
  | .ok c => c.holds missingIsOld

/-- The words of a condition: under the name `[` they must be closed. -/
def conditionWords? (name : Bytes) (args : List Bytes) : Option (List Bytes) :=
  if name = bytesOf "[" then
    if args.getLast? = some (bytesOf "]") then some args.dropLast else none
  else some args

/-- Evaluates a condition. -/
def test : Program := fun name args => do
  match conditionWords? name args with
  | none =>
    complain name (bytesOf "missing ']'")
    return 2
  | some words =>
    match ← conditionValue true words with
    | .ok value => return codeOf value
    | .error fault =>
      complain name fault.message
      return 2

end LineShell.Userland
