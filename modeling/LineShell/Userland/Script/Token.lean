import LineShell.Userland.Script.Syntax
/-!
# Tokens of a script

What a script is cut into before commands are read from it. `Input` is what is left of a script with
the line where that begins; a token that was looked at too early can be put back. Reading is a
computation on the input that may end with a fault and its line.
-/

namespace LineShell.Userland.Script

/-- The sign of a redirection. -/
inductive RedirectSign where
  | kind (k : RedirectKind)
  /-- The input follows in the script; with `tabs` the tabs in front of its lines are left out. -/
  | document (tabs : Bool)
  deriving DecidableEq, Repr

/-- The number that a redirection is about when none is written. -/
def RedirectSign.standardNumber : RedirectSign → Nat
  | .document _ | .kind .input | .kind .both | .kind .duplicateInput => 0
  | .kind _ => 1

/-- A token. -/
inductive Token where
  | word (w : Word)
  | keyword (name : Bytes)
  | redirect (fd : Nat) (sign : RedirectSign)
  | operator (sign : Bytes)
  | newline
  | ended

/-- Why a script cannot be read further. -/
inductive Fault where
  | unterminatedQuote
  | unterminatedBackquote
  | missingBrace
  | missingParentheses
  | unexpected (what : Bytes) (wanted : Option Bytes)
  | badFunctionName
  | badLoopVariable
  | badNumber
  deriving DecidableEq, Repr

/-- The wording of a fault. -/
def Fault.message (f : Fault) : Bytes :=
  bytesOf "Syntax error: " ++ match f with
    | .unterminatedQuote => bytesOf "Unterminated quoted string"
    | .unterminatedBackquote => bytesOf "EOF in backquote substitution"
    | .missingBrace => bytesOf "Missing '\x7d'"
    | .missingParentheses => bytesOf "Missing '))'"
    | .unexpected what none => what ++ bytesOf " unexpected"
    | .unexpected what (some wanted) =>
      what ++ bytesOf " unexpected (expecting " ++ wanted ++ bytesOf ")"
    | .badFunctionName => bytesOf "Bad function name"
    | .badLoopVariable => bytesOf "Bad for loop variable"
    | .badNumber => bytesOf "Bad fd number"

/-- What is left of a script. -/
structure Input where
  rest : Bytes
  /-- The number of the line where the rest begins. -/
  line : Nat
  /-- How many lines were taken out behind the present one. -/
  takenOut : Nat
  /-- A token that was put back. -/
  ahead : Option Token

/-- A fault and the line on which it was found. -/
abbrev Failure := Fault × Nat

/-- A computation on the input. -/
abbrev Reading := StateT Input (Except Failure)

/-- A whole script. -/
def Input.ofScript (script : Bytes) : Input := ⟨script, 1, 0, none⟩

/-- Ends reading with a fault. -/
def fail {α : Type} (f : Fault) : Reading α := do throw (f, (← get).line)

/-- Goes on by some bytes, counting the lines among them. -/
def advance (count : Nat) : Reading Unit :=
  modify fun i => { i with
    rest := i.rest.drop count
    line := i.line + (i.rest.take count).count 10 }

/-- Puts a token back. -/
def putBack (t : Token) : Reading Unit := modify fun i => { i with ahead := some t }

/-- The words that have a meaning where a command may begin. -/
def keywords : List Bytes :=
  (["!", "case", "do", "done", "elif", "else", "esac", "fi", "for", "if", "in", "then", "until",
    "while", "\x7b", "\x7d"] : List String).map (fun w => bytesOf w)

/-- A plain word that is a keyword becomes one. -/
def Token.withKeyword : Token → Token
  | .word [.literal bytes false] =>
    if keywords.contains bytes then .keyword bytes else .word [.literal bytes false]
  | t => t

/-- Whether a token is a given keyword. -/
def Token.isKeyword (t : Token) (name : String) : Bool :=
  match t with
  | .keyword k => k == bytesOf name
  | _ => false

/-- Whether a token is a given operator. -/
def Token.isOperator (t : Token) (sign : String) : Bool :=
  match t with
  | .operator o => o == bytesOf sign
  | _ => false

/-- A sign or a keyword in a message. -/
def inQuotes (sign : Bytes) : Bytes := byte '"' :: sign ++ [byte '"']

/-- How a token is named in a message. -/
def Token.shown : Token → Bytes
  | .word _ => bytesOf "word"
  | .keyword k => inQuotes k
  | .redirect .. => bytesOf "redirection"
  | .operator o => inQuotes o
  | .newline => bytesOf "newline"
  | .ended => bytesOf "end of file"

/-- Ends reading because of a token; perhaps another one was wanted. -/
def unexpected {α : Type} (t : Token) (wanted : Option Token) : Reading α :=
  fail (.unexpected t.shown (wanted.map Token.shown))

/-- Whether no command of a list can begin with a token. -/
def Token.endsList : Token → Bool
  | .ended => true
  | .operator o => o == bytesOf ")" || o == bytesOf ";;"
  | .keyword k =>
    ["then", "else", "elif", "fi", "do", "done", "esac", "\x7d"].any (fun w => bytesOf w == k)
  | _ => false

/-! ### Signs and blanks -/

/-- The rest behind blanks, joined lines and a comment, and the number of joined lines. -/
def skipBlanks : Bytes → Nat → Bytes × Nat
  | 0x20 :: rest, lines | 0x09 :: rest, lines => skipBlanks rest lines
  | 0x5c :: 0x0a :: rest, lines => skipBlanks rest (lines + 1)
  -- The line feed behind a comment still ends its line.
  | 0x23 :: rest, lines => (rest.dropWhile (· != 10), lines)
  | bytes, lines => (bytes, lines)

/-- Whether nothing but blanks is left. -/
def Input.isFinished (i : Input) : Bool :=
  match i.ahead with
  | none | some .ended => (skipBlanks i.rest 0).1.isEmpty
  | some _ => false

/-- The redirection sign at the beginning, and its length. -/
def redirectSign? : Bytes → Option (RedirectSign × Nat)
  | 0x3c :: 0x3c :: 0x2d :: _ => some (.document true, 3)
  | 0x3c :: 0x3c :: _ => some (.document false, 2)
  | 0x3c :: 0x26 :: _ => some (.kind .duplicateInput, 2)
  | 0x3c :: 0x3e :: _ => some (.kind .both, 2)
  | 0x3c :: _ => some (.kind .input, 1)
  | 0x3e :: 0x3e :: _ => some (.kind .append, 2)
  | 0x3e :: 0x26 :: _ => some (.kind .duplicateOutput, 2)
  | 0x3e :: 0x7c :: _ => some (.kind .forced, 2)
  | 0x3e :: _ => some (.kind .output, 1)
  | _ => none

/-- The redirection at the beginning, perhaps with a digit in front, and its length. -/
def redirect? (bytes : Bytes) : Option (Token × Nat) :=
  let numbered := match bytes with
    | b :: rest => if isDigit b then some (b.toNat - 48, rest) else none
    | [] => none
  match numbered with
  | some (fd, rest) => (redirectSign? rest).map (fun r => (.redirect fd r.1, r.2 + 1))
  | none => (redirectSign? bytes).map (fun r => (.redirect r.1.standardNumber r.1, r.2))

/-- The operator at the beginning. -/
def operator? (bytes : Bytes) : Option Bytes :=
  (["&&", "||", ";;", "&", "|", ";", "(", ")"].map (fun o => bytesOf o)).find?
    (·.isPrefixOf bytes)

/-- The token at the beginning unless it is a word. -/
def signToken? : Reading (Option Token) := do
  modify fun i =>
    let (rest, lines) := skipBlanks i.rest 0
    { i with rest := rest, line := i.line + lines }
  let i ← get
  match i.rest with
  | [] => return some .ended
  | 0x0a :: rest =>
    set { i with rest := rest, line := i.line + 1 + i.takenOut, takenOut := 0 }
    return some .newline
  | bytes =>
    match operator? bytes with
    | some o => do advance o.length; return some (.operator o)
    | none =>
      match redirect? bytes with
      | some (t, count) => do advance count; return some t
      | none => return none

/-- Whether a byte ends a word. -/
def endsWord (b : UInt8) : Bool := (bytesOf " \t\n;&|<>()").contains b

/-- Whether a byte stands for itself wherever it is written. -/
def isOrdinary (b : UInt8) : Bool := !(bytesOf " \t\n;&|<>()$`\"'\\\x7d").contains b

/-! ### Words -/

/-- Puts bytes behind pieces that are held in reverse. -/
def push (bytes : Bytes) (quoted : Bool) : Word → Word
  | .literal before q :: rest =>
    if q = quoted then .literal (before ++ bytes) q :: rest
    else .literal bytes quoted :: .literal before q :: rest
  | w => .literal bytes quoted :: w

/-- The text of a word without its quotes, as the end mark of a document. -/
def plainText (w : Word) : Bytes :=
  w.flatMap (fun p => match p with
    | .literal bytes _ => bytes
    | .parameter name _ _ => byte '$' :: name
    | _ => [])

/-- Whether some of a word stands in quotes. -/
def isQuoted (w : Word) : Bool :=
  w.any (fun p => match p with
    | .literal _ quoted => quoted
    | _ => false)

/-- What stands between backquotes, and how long that is with the closing one. -/
def backquoted (quoted : Bool) : Bytes → Option (Bytes × Nat)
  | [] => none
  | 0x60 :: _ => some ([], 1)
  | 0x5c :: b :: rest =>
    let escaped := b == 0x5c || b == 0x60 || b == 0x24 || (quoted && b == 0x22)
    (backquoted quoted rest).map (fun r =>
      ((if escaped then [b] else [0x5c, b]) ++ r.1, r.2 + 2))
  | b :: rest => (backquoted quoted rest).map (fun r => (b :: r.1, r.2 + 1))

/-- The lines of a document up to its end mark, and how many lines it takes with the mark. -/
def documentLines (tabs : Bool) (mark : Bytes) : List Bytes → List Bytes × Nat
  | [] => ([], 0)
  | line :: rest =>
    let line := if tabs then line.dropWhile (· == 9) else line
    if line.filter (· != 10) = mark then ([], 1)
    else
      let r := documentLines tabs mark rest
      (line :: r.1, r.2 + 1)

/-- Takes a document out of the input behind the present line. -/
def takeDocument (tabs : Bool) (mark : Bytes) : Reading Bytes := do
  let i ← get
  let present := i.rest.takeWhile (· != 10)
  let behind := rawLines (i.rest.drop (present.length + 1))
  let (lines, count) := documentLines tabs mark behind
  set { i with
    rest := i.rest.take (present.length + 1) ++ (behind.drop count).flatten
    takenOut := i.takenOut + count }
  return lines.flatten

/-! ### Parameters in braces -/

/-- The name of a parameter in braces, and whether its length is asked for; no name at all is
empty. -/
def parameterName (rest : Bytes) : Bytes × Bool :=
  let nameAt := fun (bytes : Bytes) =>
    match bytes with
    | b :: _ =>
      if startsName b then bytes.takeWhile inName
      else if isDigit b then bytes.takeWhile isDigit
      else []
    | [] => []
  match rest with
  | 0x23 :: more =>
    let name := nameAt more
    if !name.isEmpty then (name, true)
    else match more with
      | b :: 0x7d :: _ => if isSpecialName b then ([b], true) else ([0x23], false)
      | _ => ([0x23], false)
  | b :: _ => if isSpecialName b then ([b], false) else (nameAt rest, false)
  | [] => ([], false)

/-- What is written behind a name in braces. -/
inductive UseSign where
  | closed
  | fallback (kind : Fallback) (ifEmpty : Bool)
  | trim (atEnd longest : Bool)
  | wrong

/-- The fallback of a sign. -/
def fallback? (b : UInt8) : Option Fallback :=
  match Char.ofNat b.toNat with
  | '-' => some .instead
  | '=' => some .assigned
  | '?' => some .refused
  | '+' => some .onlyIfThere
  | _ => none

/-- The sign at the beginning, and its length. -/
def useSign : Bytes → UseSign × Nat
  | 0x7d :: _ => (.closed, 1)
  | 0x25 :: 0x25 :: _ => (.trim true true, 2)
  | 0x25 :: _ => (.trim true false, 1)
  | 0x23 :: 0x23 :: _ => (.trim false true, 2)
  | 0x23 :: _ => (.trim false false, 1)
  | 0x3a :: b :: _ =>
    match fallback? b with
    | some kind => (.fallback kind true, 2)
    | none => (.wrong, 1)
  | b :: _ =>
    match fallback? b with
    | some kind => (.fallback kind false, 1)
    | none => (.wrong, 0)
  | [] => (.wrong, 0)

end LineShell.Userland.Script
