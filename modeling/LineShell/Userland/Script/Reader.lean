import LineShell.Userland.Script.Token
/-!
# Reading scripts

Commands are read one complete line at a time, since each line runs before the next one is read:
`Script.next?` gives the next line of commands and the input behind it. All functions here share
fuel that bounds the depth of their calls; the length of the input is more than enough of it.
-/

namespace LineShell.Userland.Script

/-- What stands around the pieces that are read. -/
inductive Around where
  /-- The blanks and signs at the end of a word. -/
  | word
  | quotes
  /-- Braces, which may stand in quotes themselves. -/
  | braces (quoted : Bool)
  /-- Nothing: all the text is read. -/
  | document
  /-- Two parentheses, with so many open ones inside. -/
  | parentheses (depth : Nat)
  deriving DecidableEq

/-- Whether text counts as quoted. -/
def Around.isQuoted : Around → Bool
  | .word | .braces false => false
  | _ => true

/-- Whether a backslash takes the meaning from the byte behind it. -/
def Around.escapes (around : Around) (b : UInt8) : Bool :=
  match around with
  | .word | .braces false => true
  | .document => (bytesOf "$`\\").contains b
  | .braces true => (bytesOf "$`\"\\\x7d").contains b
  | .quotes | .parentheses _ => (bytesOf "$`\"\\").contains b

/-- The fault of a text that ends too early, if it does. -/
def Around.faultAtEnd? : Around → Option Fault
  | .word | .document => none
  | .braces false => some .missingBrace
  | .parentheses _ => some .missingParentheses
  | .quotes | .braces true => some .unterminatedQuote

/-- Makes sure that the next token, perhaps behind line ends, is there with its keyword. -/
def keywordsAhead (token : Reading Token) : Nat → Bool → Reading Unit
  | 0, _ => return ()
  | fuel + 1, newlines => do
    let t ← token
    match t, newlines with
    | .newline, true => keywordsAhead token fuel true
    | _, _ => putBack t.withKeyword

/-- A closing parenthesis. -/
def closing : Token := .operator (bytesOf ")")

/-- A command with redirections put on it. -/
def Command.withRedirections (rs : List Redirection) : Command → Command
  | .subshell line body _ => .subshell line body rs
  | .group body _ => .group body rs
  | .branch condition yes no _ => .branch condition yes no rs
  | .loop negative condition body _ => .loop negative condition body rs
  | .forEach line name words body _ => .forEach line name words body rs
  | .choice line word arms _ => .choice line word arms rs
  | other => other

/-- The commands that a function must not be named like. -/
def specialNames : List Bytes :=
  (["break", "continue", ".", "eval", "exec", "exit", "export", "readonly", "local", "return",
    "set", "shift", "times", "trap", ":", "unset"] : List String).map (fun w => bytesOf w)

mutual

/-- The next token. -/
def token : Nat → Reading Token
  | 0 => return .ended
  | fuel + 1 => do
    let i ← get
    match i.ahead with
    | some t =>
      set { i with ahead := none }
      return t
    | none =>
      match ← signToken? with
      | some t => return t
      | none => return .word (← pieces fuel .word [])

/-- The pieces up to where their surroundings end. What ends them is taken along, except behind a
word; `before` are the pieces so far, the last one first. -/
def pieces : Nat → Around → Word → Reading Word
  | 0, _, before => return before.reverse
  | fuel + 1, around, before => do
    let i ← get
    let quoted := around.isQuoted
    let close := fun (count : Nat) => do
      advance count
      return before.reverse
    let take := fun (bytes : Bytes) (quoted : Bool) (count : Nat) => do
      advance count
      pieces fuel around (push bytes quoted before)
    match i.rest with
    | [] =>
      match around.faultAtEnd? with
      | none => return before.reverse
      | some f => fail f
    | [0x5c] => take [0x5c] true 1
    | 0x5c :: 0x0a :: _ => do
      advance 2
      pieces fuel around before
    | 0x5c :: b :: _ => if around.escapes b then take [b] true 2 else take [0x5c] true 1
    | 0x24 :: _ => do
      advance 1
      let piece ← dollar fuel quoted
      pieces fuel around (piece :: before)
    | 0x60 :: rest =>
      match backquoted quoted rest with
      | none => fail .unterminatedBackquote
      | some (script, count) => do
        set { i with rest := script, ahead := none, takenOut := 0 }
        let body ← list fuel true
        set i
        advance (count + 1)
        pieces fuel around (.substitution body quoted :: before)
    | 0x22 :: _ =>
      match around with
      | .quotes => close 1
      | .document => take [0x22] true 1
      | .parentheses _ => do
        advance 1
        pieces fuel around before
      | .word | .braces _ => do
        advance 1
        let inside ← pieces fuel .quotes []
        -- Quotes around nothing are still there.
        let inside := if inside.isEmpty then [.literal [] true] else inside
        pieces fuel around (inside.reverse ++ before)
    | 0x27 :: rest =>
      if quoted then take [0x27] true 1
      else
        let inside := rest.takeWhile (· != 0x27)
        if inside.length = rest.length then fail .unterminatedQuote
        else do
          advance (inside.length + 2)
          pieces fuel around (.literal inside true :: before)
    | 0x7d :: _ =>
      match around with
      | .braces _ => close 1
      | _ => take [0x7d] quoted 1
    | 0x28 :: _ =>
      match around with
      | .word => return before.reverse
      | .parentheses depth => do
        advance 1
        pieces fuel (.parentheses (depth + 1)) (push [0x28] quoted before)
      | _ => take [0x28] quoted 1
    | 0x29 :: rest =>
      match around with
      | .word => return before.reverse
      | .parentheses 0 => if rest.head? = some 0x29 then close 2 else take [0x29] quoted 1
      | .parentheses (depth + 1) => do
        advance 1
        pieces fuel (.parentheses depth) (push [0x29] quoted before)
      | _ => take [0x29] quoted 1
    | b :: rest =>
      if around = .word && endsWord b then return before.reverse
      else
        let run := b :: rest.takeWhile isOrdinary
        take run quoted run.length

/-- What a dollar sign begins. -/
def dollar : Nat → Bool → Reading Piece
  | 0, quoted => return .literal [0x24] quoted
  | fuel + 1, quoted => do
    match (← get).rest with
    | 0x28 :: 0x28 :: _ => do
      advance 2
      return .arithmetic (← pieces fuel (.parentheses 0) []) quoted
    | 0x28 :: _ => do
      advance 1
      let body ← list fuel true
      let t ← token fuel
      if t.isOperator ")" then return .substitution body quoted
      else unexpected t (some closing)
    | 0x7b :: _ => do
      advance 1
      inBraces fuel quoted
    | b :: rest =>
      if startsName b then
        let name := b :: rest.takeWhile inName
        advance name.length
        return .parameter name .value quoted
      else if isDigit b || isSpecialName b then
        advance 1
        return .parameter [b] .value quoted
      else return .literal [0x24] quoted
    | [] => return .literal [0x24] quoted

/-- A parameter in braces, behind the opening one. -/
def inBraces : Nat → Bool → Reading Piece
  | 0, quoted => return .parameter [] .wrong quoted
  | fuel + 1, quoted => do
    let (name, isLength) := parameterName (← get).rest
    advance (name.length + (if isLength then 1 else 0))
    let (sign, count) := useSign (← get).rest
    let wrong := do
      let _ ← pieces fuel (.braces quoted) []
      return Piece.parameter name .wrong quoted
    if name.isEmpty then wrong
    else match sign, isLength with
      | .closed, _ => do
        advance count
        return .parameter name (if isLength then .length else .value) quoted
      | _, true | .wrong, _ => wrong
      | .fallback kind ifEmpty, false => do
        advance count
        let word ← pieces fuel (.braces quoted) []
        return .parameter name (.fallback kind ifEmpty word) quoted
      | .trim atEnd longest, false => do
        advance count
        let pattern ← pieces fuel (.braces false) []
        return .parameter name (.trim atEnd longest pattern) quoted

/-- A list of commands up to the token that ends it. -/
def list : Nat → Bool → Reading Command
  | 0, _ => return .nothing
  | fuel + 1, mayBeEmpty => do
    keywordsAhead (token fuel) fuel true
    let t ← token fuel
    putBack t
    match t, mayBeEmpty && t.endsList with
    | .ended, _ | _, true => return .nothing
    | _, false => do
      let first ← joined fuel
      let t ← token fuel
      match t with
      | .newline => return .sequence first (← list fuel true)
      | .operator [0x3b] => return .sequence first (← list fuel true)
      | .operator [0x26] => return .sequence (.background first) (← list fuel true)
      | t =>
        putBack t
        return first

/-- One complete line of commands. -/
def completeLine : Nat → Reading Command
  | 0 => return .nothing
  | fuel + 1 => do
    keywordsAhead (token fuel) fuel false
    let t ← token fuel
    match t with
    | .newline => return .nothing
    | .ended =>
      putBack t
      return .nothing
    | t =>
      putBack t
      let first ← joined fuel
      let t ← token fuel
      match t with
      | .newline => return first
      | .ended =>
        putBack t
        return first
      | .operator [0x3b] => return .sequence first (← completeLine fuel)
      | .operator [0x26] => return .sequence (.background first) (← completeLine fuel)
      | t => unexpected t none

/-- Pipelines joined by `&&` and `||`. -/
def joined : Nat → Reading Command
  | 0 => return .nothing
  | fuel + 1 => do
    joinedBehind fuel (← pipeline fuel)

/-- What is joined behind a command. -/
def joinedBehind : Nat → Command → Reading Command
  | 0, first => return first
  | fuel + 1, first => do
    let t ← token fuel
    if t.isOperator "&&" then
      keywordsAhead (token fuel) fuel true
      joinedBehind fuel (.both first (← pipeline fuel))
    else if t.isOperator "||" then
      keywordsAhead (token fuel) fuel true
      joinedBehind fuel (.either first (← pipeline fuel))
    else
      putBack t
      return first

/-- A pipeline, which may be negated. -/
def pipeline : Nat → Reading Command
  | 0 => return .nothing
  | fuel + 1 => do
    let t ← token fuel
    if t.isKeyword "!" then
      keywordsAhead (token fuel) fuel false
      return .negated (← stages fuel)
    else
      putBack t
      stages fuel

/-- Commands joined by pipes. -/
def stages : Nat → Reading Command
  | 0 => return .nothing
  | fuel + 1 => do
    let first ← command fuel
    let t ← token fuel
    if t.isOperator "|" then
      keywordsAhead (token fuel) fuel true
      return .pipeline first (← stages fuel)
    else
      putBack t
      return first

/-- Takes a given keyword. -/
def expectKeyword : Nat → String → Reading Unit
  | 0, _ => return ()
  | fuel + 1, name => do
    let t ← token fuel
    if t.isKeyword name then return () else unexpected t (some (.keyword (bytesOf name)))

/-- A command that is no list; its first token has been looked at for keywords. -/
def command : Nat → Reading Command
  | 0 => return .nothing
  | fuel + 1 => do
    let t ← token fuel
    let line := (← get).line
    let compound := fun (c : Command) => do
      return c.withRedirections (← redirections fuel)
    match t with
    | .operator [0x28] => do
      let body ← list fuel false
      let t ← token fuel
      if t.isOperator ")" then compound (.subshell line body [])
      else unexpected t (some closing)
    | .word _ | .redirect .. => do
      putBack t
      simple fuel line [] []
    | .keyword name =>
      match String.ofList (Bytes.text name) with
      | "\x7b" => do
        let body ← list fuel false
        expectKeyword fuel "\x7d"
        compound (.group body [])
      | "if" => do compound (← branches fuel)
      | "while" => do compound (← loop fuel false)
      | "until" => do compound (← loop fuel true)
      | "for" => do compound (← forEach fuel line)
      | "case" => do compound (← choice fuel line)
      | _ => unexpected t none
    | t => unexpected t none

/-- The redirections behind a command. -/
def redirections : Nat → Reading (List Redirection)
  | 0 => return []
  | fuel + 1 => do
    keywordsAhead (token fuel) fuel false
    let t ← token fuel
    match t with
    | .redirect fd sign => do
      let first ← target fuel fd sign
      return first :: (← redirections fuel)
    | t =>
      putBack t
      return []

/-- The word behind a redirection sign, and for a document its text. -/
def target : Nat → Nat → RedirectSign → Reading Redirection
  | 0, fd, _ => return .target fd .input []
  | fuel + 1, fd, sign => do
    let t ← token fuel
    match t with
    | .word w =>
      match sign with
      | .kind kind => return .target fd kind w
      | .document tabs => do
        let text ← takeDocument tabs (plainText w)
        if isQuoted w then return .document fd [.literal text true]
        else
          let i ← get
          set { i with rest := text, ahead := none, takenOut := 0 }
          let body ← pieces fuel .document []
          set i
          return .document fd body
    | t => unexpected t none

/-- The words and redirections of a simple command, in reverse what was read before. One word with
an opening parenthesis behind it begins a function. -/
def simple : Nat → Nat → List Word → List Redirection → Reading Command
  | 0, line, words, rs => return .simple line words.reverse rs.reverse
  | fuel + 1, line, words, rs => do
    let t ← token fuel
    match t, words, rs with
    | .word w, _, _ => simple fuel line (w :: words) rs
    | .redirect fd sign, _, _ => do
      let r ← target fuel fd sign
      simple fuel line words (r :: rs)
    | .operator [0x28], [name], [] =>
      if (assignment? name).isSome then unexpected t none
      else do
        let t ← token fuel
        if !t.isOperator ")" then unexpected t (some closing)
        else match name with
          | [.literal name false] =>
            if !isName name || specialNames.contains name then fail .badFunctionName
            else do
              keywordsAhead (token fuel) fuel true
              return .function name (← command fuel)
          | _ => fail .badFunctionName
    | t, _, _ =>
      putBack t
      return .simple line words.reverse rs.reverse

/-- The condition and the branches behind `if`. -/
def branches : Nat → Reading Command
  | 0 => return .nothing
  | fuel + 1 => do
    let condition ← list fuel false
    expectKeyword fuel "then"
    let yes ← list fuel false
    let t ← token fuel
    if t.isKeyword "elif" then
      return .branch condition yes (← branches fuel) []
    else if t.isKeyword "else" then
      let no ← list fuel false
      expectKeyword fuel "fi"
      return .branch condition yes no []
    else if t.isKeyword "fi" then return .branch condition yes .nothing []
    else unexpected t (some (.keyword (bytesOf "fi")))

/-- The condition and the body behind `while` and `until`. -/
def loop : Nat → Bool → Reading Command
  | 0, _ => return .nothing
  | fuel + 1, negative => do
    let condition ← list fuel false
    expectKeyword fuel "do"
    let body ← list fuel false
    expectKeyword fuel "done"
    return .loop negative condition body []

/-- Words up to the token that ends their line. -/
def wordsInLine : Nat → List Word → Reading (List Word)
  | 0, words => return words.reverse
  | fuel + 1, words => do
    let t ← token fuel
    match t with
    | .word w => wordsInLine fuel (w :: words)
    | .newline | .ended | .operator [0x3b] => return words.reverse
    | t => unexpected t none

/-- The variable, the words and the body behind `for`; without words all positional parameters. -/
def forEach : Nat → Nat → Reading Command
  | 0, _ => return .nothing
  | fuel + 1, line => do
    match ← token fuel with
    | .word [.literal name false] =>
      if !isName name then fail .badLoopVariable
      else do
        keywordsAhead (token fuel) fuel true
        let t ← token fuel
        let words ← if t.isKeyword "in" then wordsInLine fuel []
          else do
            if !t.isOperator ";" then putBack t
            pure [[.parameter (bytesOf "@") .value true]]
        keywordsAhead (token fuel) fuel true
        expectKeyword fuel "do"
        let body ← list fuel false
        expectKeyword fuel "done"
        return .forEach line name words body []
    | _ => fail .badLoopVariable

/-- The word and the arms behind `case`. -/
def choice : Nat → Nat → Reading Command
  | 0, _ => return .nothing
  | fuel + 1, line => do
    let t ← token fuel
    match t with
    | .word w => do
      keywordsAhead (token fuel) fuel true
      expectKeyword fuel "in"
      return .choice line w (← arms fuel) []
    | t => unexpected t (some (.word []))

/-- The arms of a choice, up to its end. -/
def arms : Nat → Reading (List Arm)
  | 0 => return []
  | fuel + 1 => do
    keywordsAhead (token fuel) fuel true
    let t ← token fuel
    if t.isKeyword "esac" then return []
    else
      if !t.isOperator "(" then putBack t
      let patterns ← patterns fuel
      let body ← list fuel true
      keywordsAhead (token fuel) fuel true
      let t ← token fuel
      if t.isKeyword "esac" then return [.mk patterns body]
      else if t.isOperator ";;" then return .mk patterns body :: (← arms fuel)
      else unexpected t (some (.operator (bytesOf ";;")))

/-- The patterns of an arm, up to the parenthesis behind them. -/
def patterns : Nat → Reading (List Word)
  | 0 => return []
  | fuel + 1 => do
    let t ← token fuel
    let w : Word := match t with
      | .word w => w
      | .keyword k => [.literal k false]
      | _ => []
    let isPattern := match t with
      | .word _ | .keyword _ => true
      | _ => false
    let next ← token fuel
    if isPattern && next.isOperator "|" then return w :: (← patterns fuel)
    else if next.isOperator ")" then return [w]
    else unexpected next (some closing)

end

/-- The next line of commands and the input behind it; nothing when the script is at its end. -/
def next? (i : Input) : Except Failure (Option (Command × Input)) :=
  if i.isFinished then .ok none
  else
    let fuel := 8 * i.rest.length + 64
    (completeLine fuel).run i |>.map some

end LineShell.Userland.Script
