import LineShell.Userland.Editing.Command
import LineShell.Userland.Expression.Reader
/-!
# Reading editing scripts

A script is read command by command. A fault is reported with the number of bytes read until then,
which is why the reader keeps what is left of the script: nothing else is needed to tell the place.

`readScript` gives the commands with their targets.
-/

namespace LineShell.Userland.Editing

/-- Why a script cannot be read. -/
inductive Fault where
  | negatedTwice
  | strayComma
  | relativeFirst
  | openBlock
  | strayClose
  | junk
  | missingText
  | addressOfClose
  | addressOfLabel
  | addressOfComment
  | missingCommand
  | oneAddressOnly
  | openExpression
  | openSubstitution
  | openTransliteration
  | unknownFlag
  | twicePrinted
  | twiceAll
  | twiceNumbered
  | numberZero
  | differentLengths
  | newerWanted
  | lineZero
  | unknownCommand (b : UInt8)
  | missingLabel
  | missingFile
  | flagsOfNone
  | expression (e : ExpressionFault)
  | unknownGroup (n : Nat)
  deriving DecidableEq, Repr

/-- What is said about a fault. -/
def Fault.message : Fault → Bytes
  | negatedTwice => bytesOf "multiple `!'s"
  | strayComma => bytesOf "unexpected `,'"
  | relativeFirst => bytesOf "invalid usage of +N or ~N as first address"
  | openBlock => bytesOf "unmatched `\x7b'"
  | strayClose => bytesOf "unexpected `\x7d'"
  | junk => bytesOf "extra characters after command"
  | missingText => bytesOf "expected \\ after `a', `c' or `i'"
  | addressOfClose => bytesOf "`\x7d' doesn't want any addresses"
  | addressOfLabel => bytesOf ": doesn't want any addresses"
  | addressOfComment => bytesOf "comments don't accept any addresses"
  | missingCommand => bytesOf "missing command"
  | oneAddressOnly => bytesOf "command only uses one address"
  | openExpression => bytesOf "unterminated address regex"
  | openSubstitution => bytesOf "unterminated `s' command"
  | openTransliteration => bytesOf "unterminated `y' command"
  | unknownFlag => bytesOf "unknown option to `s'"
  | twicePrinted => bytesOf "multiple `p' options to `s' command"
  | twiceAll => bytesOf "multiple `g' options to `s' command"
  | twiceNumbered => bytesOf "multiple number options to `s' command"
  | numberZero => bytesOf "number option to `s' command may not be zero"
  | differentLengths => bytesOf "strings for `y' command are different lengths"
  | newerWanted => bytesOf "expected newer version of sed"
  | lineZero => bytesOf "invalid usage of line address 0"
  | unknownCommand b => bytesOf "unknown command: `" ++ [b] ++ bytesOf "'"
  | missingLabel => bytesOf "\":\" lacks a label"
  | missingFile => bytesOf "missing filename in r/R/w/W commands"
  | flagsOfNone => bytesOf "cannot specify modifiers on empty regexp"
  | expression e => e.message
  | unknownGroup n =>
    bytesOf "invalid reference \\" ++ (Text.ofNat n).bytes ++ bytesOf " on `s' command's RHS"

/-- What is left of a script, and which files it writes to so far. -/
structure Reading where
  rest : Bytes
  written : List Bytes

/-- A step of reading. A fault comes with how far the reading had come. -/
abbrev Read := StateT Reading (Except (Fault × Reading))

namespace Read

/-- Fails at the current place. -/
def fail {α : Type} (f : Fault) : Read α := do throw (f, ← get)

/-- Changes what is left. -/
def modifyRest (f : Bytes → Bytes) : Read Unit := modify fun r => { r with rest := f r.rest }

/-- What is left. -/
def rest : Read Bytes := return (← get).rest

/-- The next byte. -/
def next? : Read (Option UInt8) := do
  let first := (← rest).head?
  modifyRest (List.drop 1)
  return first

/-- The next byte that is no blank. -/
def nextVisible? : Read (Option UInt8) := do
  modifyRest (fun rest => rest.dropWhile (fun b => b = 32 || b = 9))
  next?

/-- Gives back a byte. -/
def back (b : Option UInt8) : Read Unit := modifyRest (fun rest => b.toList ++ rest)

/-- Takes bytes as long as they are wanted. -/
def takeWhile (wanted : UInt8 → Bool) : Read Bytes := do
  let taken := (← rest).takeWhile wanted
  modifyRest (fun rest => rest.drop taken.length)
  return taken

/-- The number that begins with the digits ahead. -/
def number : Read Nat := do
  let digits ← takeWhile (fun b => 48 ≤ b && b ≤ 57)
  return digits.foldl (fun n b => 10 * n + (b.toNat - 48)) 0

end Read

open Read

/-- Whether a byte is a digit. -/
def isDigit (b : UInt8) : Bool := 48 ≤ b && b ≤ 57

/-- The end of a command: the end of a line, a semicolon, a closing brace or a comment. -/
def endOfCommand : Read Unit := do
  match ← nextVisible? with
  | none | some 10 | some 0x3b => return
  | some b => if b = 0x7d || b = byte '#' then back (some b) else fail .junk

/-! ### Escapes -/

/-- The value of a digit of some base. -/
def digitValue? (base : Nat) (b : UInt8) : Option Nat :=
  let n := b.toNat
  let value := if 48 ≤ n && n ≤ 57 then n - 48
    else if 97 ≤ n && n ≤ 102 then n - 87
    else if 65 ≤ n && n ≤ 70 then n - 55
    else base
  if value < base then some value else none

/-- The byte that digits of a base give, at most `most` of them, and what is left. -/
def byteOf? (base most : Nat) (bytes : Bytes) : Option (UInt8 × Bytes) :=
  let digits := (bytes.take most).takeWhile (fun b => (digitValue? base b).isSome)
  if digits.isEmpty then none
  else some ((digits.foldl (fun n b => base * n + (digitValue? base b).getD 0) 0).toUInt8,
    bytes.drop digits.length)

/-- The byte that a sign behind a backslash gives with what follows it. -/
def escapeOf? (sign : UInt8) (rest : Bytes) : Option (UInt8 × Bytes) :=
  match Char.ofNat sign.toNat with
  | 'a' => some (7, rest)
  | 'f' => some (12, rest)
  | 'n' => some (10, rest)
  | 'r' => some (13, rest)
  | 't' => some (9, rest)
  | 'v' => some (11, rest)
  | 'd' => byteOf? 10 3 rest
  | 'o' => byteOf? 8 3 rest
  | 'x' => byteOf? 16 2 rest
  | 'c' =>
    match rest with
    | 0x5c :: 0x5c :: rest => some (28, rest)
    | 0x5c :: _ => none
    | b :: rest => some (ByteSet.capital b ^^^ 64, rest)
    | [] => none
  | _ => none

/-- An expression with bytes in place of escapes that mean bytes. -/
def withoutEscapes : Nat → Bytes → Bytes
  | 0, _ => []
  | fuel + 1, bytes =>
    match bytes with
    | [] => []
    | [b] => [b]
    | 0x5c :: sign :: rest =>
      match escapeOf? sign rest with
      | some (b, rest) => b :: withoutEscapes fuel rest
      | none => 0x5c :: sign :: withoutEscapes fuel rest
    | b :: rest => b :: withoutEscapes fuel rest

/-! ### Delimited parts -/

/-- Where in brackets a byte stands: outside any name, behind an opening bracket, inside a name that
a sign began, and behind a second such sign. -/
inductive Within where
  | outside
  | opened
  | name (sign : UInt8)
  | nameEnd (sign : UInt8)

/-- The bytes of a set in brackets up to its end, and what is left. -/
def bracketPart : Within → Bytes → Option (Bytes × Bytes)
  | _, [] => none
  | within, b :: rest =>
    let go := fun (next : Within) => (bracketPart next rest).map (fun r => (b :: r.1, r.2))
    let isSign := b = byte '.' || b = byte ':' || b = byte '='
    if b = 10 then none
    else match within with
      | .outside =>
        if b = 0x5d then some ([b], rest)
        else if b = 0x5b then go .opened else go .outside
      | .opened =>
        if b = 0x5d then some ([b], rest)
        else if isSign then go (.name b)
        else if b = 0x5b then go .opened else go .outside
      | .name sign => if b = sign then go (.nameEnd sign) else go (.name sign)
      | .nameEnd sign =>
        if b = 0x5d then go .outside
        else if b = sign then go (.nameEnd sign)
        else go (.name sign)

/-- The set in brackets behind the opening one. -/
def wholeBracket (bytes : Bytes) : Option (Bytes × Bytes) :=
  let caret := bytes.takeWhile (· == byte '^') |>.take 1
  let rest := bytes.drop caret.length
  let close := rest.takeWhile (· == 0x5d) |>.take 1
  (bracketPart .outside (rest.drop close.length)).map (fun r => (caret ++ close ++ r.1, r.2))

/-- The bytes up to a delimiter, and what is left behind it. A backslash takes the meaning of a
delimiter away, and in an expression brackets do. -/
def upTo (delimiter : UInt8) (isExpression : Bool) : Nat → Bytes → Except Bytes (Bytes × Bytes)
  | 0, rest => .error rest
  | fuel + 1, bytes =>
    let go := fun (taken rest : Bytes) =>
      (upTo delimiter isExpression fuel rest).map (fun r => (taken ++ r.1, r.2))
    match bytes with
    | [] => .error []
    | 10 :: rest => .error (10 :: rest)
    | [0x5c] => .error []
    | b :: rest =>
      if b = delimiter then .ok ([], rest)
      else if b = 0x5c then
        match rest with
        | [] => .error []
        | c :: rest =>
          if c = byte 'n' && isExpression then go [10] rest
          else if c = 10 then go [10] rest
          else if c = delimiter && (isExpression || c != byte '&') then go [c] rest
          else go [0x5c, c] rest
      else if b = 0x5b && isExpression then
        match wholeBracket rest with
        | some (inside, rest) => go (b :: inside) rest
        | none => .error (rest.dropWhile (· != 10))
      else go [b] rest

/-- The part up to a delimiter, or the fault given. -/
def delimited (delimiter : UInt8) (isExpression : Bool) (fault : Fault) : Read Bytes := do
  let behind ← rest
  match upTo delimiter isExpression (behind.length + 1) behind with
  | .ok (part, behind) =>
    modifyRest (fun _ => behind)
    return part
  | .error behind =>
    modifyRest (fun _ => behind)
    fail fault

/-! ### Expressions -/

/-- The expression of a delimited part. -/
def sample (d : Dialect) (part : Bytes) (folds hasLines : Bool) : Read Sample := do
  if part.isEmpty then
    if folds || hasLines then fail .flagsOfNone
    else return ⟨none, false, false, 0⟩
  else match Expression.read d (withoutEscapes (part.length + 1) part) with
    | .ok w => return ⟨some w.expression, folds, hasLines, w.groups⟩
    | .error e => fail (.expression e)

/-- The letters behind the expression of an address: whether capital and small letters are the same,
and whether line feeds end lines. -/
def sampleFlags : Nat → Bool → Bool → Read (Bool × Bool)
  | 0, folds, hasLines => return (folds, hasLines)
  | fuel + 1, folds, hasLines => do
    let b ← nextVisible?
    if b = some (byte 'I') then sampleFlags fuel true hasLines
    else if b = some (byte 'M') then sampleFlags fuel folds true
    else
      back b
      return (folds, hasLines)

/-- What the parts of an address may be. -/
inductive AddressPart where
  | selector (s : Selector)
  | after (count : Nat)
  | multiple (number : Nat)

/-- The part of an address that begins with a byte. -/
def addressPart? (d : Dialect) (b : Option UInt8) : Read (Option AddressPart) := do
  match b with
  | none => return none
  | some b =>
    if b = byte '/' || b = 0x5c then
      let delimiter ← if b = 0x5c then next? else pure (some b)
      let part ← delimited (delimiter.getD 0) true .openExpression
      let (folds, hasLines) ← sampleFlags ((← rest).length + 1) false false
      return some (.selector (.matching (← sample d part folds hasLines)))
    else if isDigit b then
      back (some b)
      let first ← number
      let sign ← nextVisible?
      if sign = some (byte '~') then
        back (← nextVisible?)
        let step ← number
        return some (.selector (if step = 0 then .line first else .every first step))
      else
        back sign
        return some (.selector (.line first))
    else if b = byte '+' || b = byte '~' then
      back (← nextVisible?)
      let n ← number
      return some (if b = byte '+' then .after n else .multiple n)
    else if b = byte '$' then return some (.selector .last)
    else return none

/-- The address ahead and the first byte behind it; `b` is the first byte of both. -/
def address? (d : Dialect) (b : Option UInt8) : Read (Option Address × Option UInt8) := do
  match ← addressPart? d b with
  | none => return (none, b)
  | some (.after _) | some (.multiple _) => fail .relativeFirst
  | some (.selector first) =>
    let sign ← nextVisible?
    let (stop, sign) ←
      if sign = some 0x2c then do
        match ← addressPart? d (← nextVisible?) with
        | none => fail .strayComma
        | some part =>
          let stop : RangeEnd := match part with
            | .selector s => .at_ s
            | .after n => .after n
            | .multiple n => .multiple n
          pure (some stop, ← nextVisible?)
      else pure (none, sign)
    let endsByExpression := match stop with
      | some (.at_ (.matching _)) => true
      | _ => false
    if first = .line 0 && !endsByExpression then fail .lineZero
    else return (some ⟨first, stop⟩, sign)

/-! ### What commands take -/

/-- A label, which ends at white space, a semicolon or a brace. -/
def labelName : Read Bytes := do
  modifyRest (fun rest => rest.dropWhile (fun b => b = 32 || b = 9))
  takeWhile (fun b => !(isSpace b || b = 0x3b || b = 0x7d))

/-- A path, which goes to the end of the line. -/
def pathName : Read Bytes := do
  modifyRest (fun rest => rest.dropWhile (fun b => b = 32 || b = 9))
  let path ← takeWhile (· != 10)
  let _ ← next?
  if path.isEmpty then fail .missingFile else return path

/-- The path of a file that is written to. -/
def writtenName : Read Bytes := do
  let path ← pathName
  modify fun r => { r with written := r.written ++ [path] }
  return path

/-- A text up to the end of its last line. A backslash takes the meaning of a line feed away. -/
def textLines : Nat → Bytes → Bytes × Bytes
  | 0, rest => ([], rest)
  | fuel + 1, bytes =>
    match bytes with
    | [] => ([10], [])
    | 10 :: rest => ([10], rest)
    | [0x5c] => ([10], [])
    | 0x5c :: c :: rest =>
      let (b, rest) := (escapeOf? c rest).getD (c, rest)
      let (text, rest) := textLines fuel rest
      (b :: text, rest)
    | b :: rest =>
      let (text, rest) := textLines fuel rest
      (b :: text, rest)

/-- The text of a command that puts one in. -/
def textOfCommand : Read Bytes := do
  let b ← nextVisible?
  let takeText : Read Bytes := do
    let behind ← rest
    let (text, behind) := textLines (behind.length + 1) behind
    modifyRest (fun _ => behind)
    return text
  match b with
  | none => fail .missingText
  | some 0x5c =>
    match ← next? with
    | none => return []
    | some 10 => if (← rest).isEmpty then return [] else takeText
    | some c =>
      if c = 0x5c then
        back (some c)
        takeText
      else
        -- The first byte of the text stands for itself.
        return c :: (← takeText)
  | some b =>
    back (some b)
    takeText

/-- The pieces of what a substitution puts in. -/
def pieces : Nat → Bytes → List Piece
  | 0, _ => []
  | fuel + 1, bytes =>
    match bytes with
    | [] => []
    | 0x26 :: rest => .group 0 :: pieces fuel rest
    | [b] => [.bytes [b]]
    | 0x5c :: c :: rest =>
      if isDigit c then .group (c.toNat - 48) :: pieces fuel rest
      else match Char.ofNat c.toNat with
        | 'L' => .letters .small :: pieces fuel rest
        | 'U' => .letters .capital :: pieces fuel rest
        | 'E' => .letters .asTheyAre :: pieces fuel rest
        | 'l' => .letters .nextSmall :: pieces fuel rest
        | 'u' => .letters .nextCapital :: pieces fuel rest
        | _ =>
          let (b, rest) := (escapeOf? c rest).getD (c, rest)
          .bytes [b] :: pieces fuel rest
    | b :: rest => .bytes [b] :: pieces fuel rest

/-- The flags of a substitution. -/
structure SubstitutionFlags where
  folds : Bool
  hasLines : Bool
  prints : Bool
  all : Bool
  nth : Option Nat
  file : Option Bytes

/-- Reads the flags behind a substitution. -/
def substitutionFlags : Nat → SubstitutionFlags → Read SubstitutionFlags
  | 0, f => return f
  | fuel + 1, f => do
    match ← next? with
    | none | some 10 | some 0x3b => return f
    | some b =>
      match Char.ofNat b.toNat with
      | 'i' | 'I' => substitutionFlags fuel { f with folds := true }
      | 'm' | 'M' => substitutionFlags fuel { f with hasLines := true }
      | 'p' =>
        if f.prints then fail .twicePrinted
        else substitutionFlags fuel { f with prints := true }
      | 'g' =>
        if f.all then fail .twiceAll else substitutionFlags fuel { f with all := true }
      | 'w' => return { f with file := some (← writtenName) }
      | ' ' | '\t' => substitutionFlags fuel f
      | '\x7d' | '#' =>
        back (some b)
        return f
      | _ =>
        if isDigit b then
          if f.nth.isSome then fail .twiceNumbered
          else
            back (some b)
            let n ← number
            if n = 0 then fail .numberZero
            else substitutionFlags fuel { f with nth := some n }
        else fail .unknownFlag

/-- The largest group that pieces ask for. -/
def largestGroup (ps : List Piece) : Nat :=
  ps.foldl (fun n p => match p with
    | .group m => max n m
    | _ => n) 0

/-- A substitution behind its letter. -/
def substitution (d : Dialect) : Read Substitution := do
  let delimiter := (← next?).getD 0
  let part ← delimited delimiter true .openSubstitution
  let template ← delimited delimiter false .openSubstitution
  let f ← substitutionFlags ((← rest).length + 1) ⟨false, false, false, false, none, none⟩
  let s ← sample d part f.folds f.hasLines
  let ps := pieces (template.length + 1) template
  if s.expression.isSome && s.groups < largestGroup ps then fail (.unknownGroup (largestGroup ps))
  else return ⟨s, ps, f.nth.getD 1, f.all, f.prints, f.file⟩

/-- The bytes of one side of a transliteration. -/
def sideBytes : Nat → Bytes → Bytes
  | 0, _ => []
  | fuel + 1, bytes =>
    match bytes with
    | [] => []
    | 0x5c :: 0x5c :: rest => 0x5c :: sideBytes fuel rest
    | 0x5c :: c :: rest =>
      match escapeOf? c rest with
      | some (b, rest) => b :: sideBytes fuel rest
      | none => 0x5c :: sideBytes fuel (c :: rest)
    | b :: rest => b :: sideBytes fuel rest

/-- A transliteration behind its letter. -/
def transliteration : Read (List (UInt8 × UInt8)) := do
  let delimiter := (← next?).getD 0
  let source ← delimited delimiter false .openTransliteration
  let target ← delimited delimiter false .openTransliteration
  let source := sideBytes (source.length + 1) source
  let target := sideBytes (target.length + 1) target
  if source.length ≠ target.length then fail .differentLengths
  else
    endOfCommand
    return source.zip target

/-- The number behind a command. -/
def numberOfCommand : Read (Option Nat) := do
  let b ← nextVisible?
  back b
  let n ← if b.any isDigit then some <$> number else pure none
  endOfCommand
  return n

/-- The commands that are a letter alone. -/
def plainAction? (b : UInt8) : Option Action :=
  match Char.ofNat b.toNat with
  | '=' => some .number
  | 'd' => some .delete
  | 'D' => some .deleteFirst
  | 'F' => some .fileName
  | 'g' => some .get
  | 'G' => some .appendHeld
  | 'h' => some .hold
  | 'H' => some .appendToHeld
  | 'n' => some .next
  | 'N' => some .appendNext
  | 'p' => some .print
  | 'P' => some .printFirst
  | 'z' => some .clear
  | 'x' => some .swap
  | _ => none

/-- The command that begins with a byte, for an address. -/
def action (d : Dialect) (address : Option Address) (b : UInt8) : Read Action := do
  match plainAction? b with
  | some a =>
    endOfCommand
    return a
  | none =>
    match Char.ofNat b.toNat with
    | '#' =>
      if address.isSome then fail .addressOfComment
      else
        let _ ← takeWhile (· != 10)
        return .nothing
    | '\x7b' => return .openBlock
    | '\x7d' => if address.isSome then fail .addressOfClose else do endOfCommand; return .closeBlock
    | ':' =>
      if address.isSome then fail .addressOfLabel
      else
        let name ← labelName
        if name.isEmpty then fail .missingLabel else return .label name
    | 'a' => return .append (← textOfCommand)
    | 'i' => return .insert (← textOfCommand)
    | 'c' => return .change (← textOfCommand)
    | 'b' => return .jump .always (← labelName)
    | 't' => return .jump .replaced (← labelName)
    | 'T' => return .jump .notReplaced (← labelName)
    | 'q' | 'Q' =>
      if address.any (fun a => a.stop.isSome) then fail .oneAddressOnly
      else return .quit ((← numberOfCommand).getD 0) (b = byte 'Q')
    | 'l' => return .list (← numberOfCommand)
    | 'r' => return .readFile (← pathName)
    | 'R' => return .readLine (← pathName)
    | 'w' => return .writeFile (← writtenName)
    | 'W' => return .writeFirst (← writtenName)
    | 's' => return .substitute (← substitution d)
    | 'y' => return .transliterate (← transliteration)
    | 'v' =>
      let version ← labelName
      if version.head?.any (fun b => isDigit b && byte '4' < b) then fail .newerWanted
      else return .nothing
    | _ => fail (.unknownCommand b)

/-- The commands of a script. Of each block that is open the script behind its brace is known. -/
def commands (d : Dialect) : Nat → List Bytes → Read (List Command)
  | 0, _ => return []
  | fuel + 1, blocks => do
    modifyRest (fun rest => rest.dropWhile (fun b => isSpace b || b = 0x3b))
    match ← next? with
    | none =>
      match blocks with
      | [] => return []
      | behind :: _ =>
        modifyRest (fun _ => behind)
        fail .openBlock
    | some b =>
      let (address, sign) ← address? d (some b)
      let (negated, sign) ←
        if sign = some (byte '!') then do
          let sign ← nextVisible?
          if sign = some (byte '!') then fail .negatedTwice else pure (true, sign)
        else pure (false, sign)
      match sign with
      | none => fail .missingCommand
      | some b =>
        if b = 0x7d && blocks.isEmpty then fail .strayClose
        else
          let a ← action d address b
          let blocks ← match a with
            | .openBlock => pure ((← rest) :: blocks)
            | .closeBlock => pure (blocks.drop 1)
            | _ => pure blocks
          return ⟨address, negated, a, 0⟩ :: (← commands d fuel blocks)

/-- Why a script cannot be run: a fault at a place, or a jump that leads nowhere. -/
inductive ScriptFault where
  | at_ (f : Fault) (place : Nat)
  | noLabel (name : Bytes)

/-- Reads a script. The files it writes to are told even if it has a fault behind them. -/
def readScript (d : Dialect) (script : Bytes) : Except ScriptFault (List Command) × List Bytes :=
  match (commands d (script.length + 1) []).run ⟨script, []⟩ with
  | .error (f, r) => (.error (.at_ f (script.length - r.rest.length)), r.written)
  | .ok (all, r) =>
    match linked all 0 all with
    | .ok linked => (.ok linked, r.written)
    | .error name => (.error (.noLabel name), r.written)

end LineShell.Userland.Editing
