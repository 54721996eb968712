import LineShell.Userland.Expression.Reader
import LineShell.Userland.Records
import LineShell.Userland.Tree
/-!
# Searching lines

`grep` selects the lines of files in which some expression describes a part, and shows, counts or
lists what it found. Its input is read to the end unless a wanted number of lines has been found:
then the position of a file is left behind the last of them.
-/

namespace LineShell.Userland

/-- What is searched for. -/
structure Sought where
  expressions : List Expression
  folds : Bool
  /-- Whether a part counts only if no word goes on at its ends. -/
  words : Bool
  /-- Whether a part counts only if it is the whole line. -/
  wholeLines : Bool

namespace Sought

/-- The best of two parts: the one that begins first, then the one that ends last. -/
def better (a b : Nat × Cursor) : Nat × Cursor :=
  if b.1 < a.1 || (a.1 = b.1 && a.2.offset < b.2.offset) then b else a

/-- The first part of a line from `start` on that some expression describes. -/
def find? (s : Sought) (line : Array UInt8) (start : Nat) : Option (Nat × Nat) :=
  let found := s.expressions.filterMap (fun e =>
    let subject : Subject := ⟨line, s.folds, false, e.recalls⟩
    let admits := fun (first last : Nat) =>
      (!s.words || (!subject.wordBefore first && !subject.wordAt last)) &&
        (!s.wholeLines || (first = 0 && last = line.size))
    e.find? subject admits start)
  match found with
  | [] => none
  | first :: rest =>
    let best := rest.foldl better first
    some (best.1, best.2.offset)

/-- All parts of a line that are not empty, one behind another. -/
def parts (s : Sought) (line : Array UInt8) : Nat → Nat → List (Nat × Nat)
  | 0, _ => []
  | fuel + 1, start =>
    match s.find? line start with
    | none => []
    | some (first, last) =>
      if last = first then s.parts line fuel (first + 1)
      else (first, last) :: s.parts line fuel last

end Sought

/-- What is shown of the lines found. -/
inductive Showing where
  | lines
  | parts
  | count
  | names (found : Bool)
  | nothing
  deriving DecidableEq, Repr

/-- A search through files. -/
structure LineSearch where
  sought : Sought
  inverted : Bool
  showing : Showing
  most : Option Nat
  before : Nat
  after : Nat
  numbers : Bool
  offsets : Bool
  /-- Whether names stand before what is shown; unset, they do below directories. -/
  named : Option Bool
  /-- Whether names end with a zero byte. -/
  zeroNames : Bool
  separator : Option Bytes
  silent : Bool
  ending : UInt8
  asText : Bool
  recursive : Bool
  /-- Whether links below directories are followed. -/
  throughLinks : Bool

/-- A line on its way through a search. -/
structure Row where
  number : Nat
  offset : Nat
  line : Bytes
  selected : Bool

namespace LineSearch

/-- A line without the byte that ends it. -/
def bare (s : LineSearch) (line : Bytes) : Bytes :=
  if line.getLast? == some s.ending then line.dropLast else line

/-- The lines of a file. -/
def rows (s : LineSearch) : Nat → Nat → List Bytes → List Row
  | _, _, [] => []
  | number, offset, line :: rest =>
    let content := s.bare line
    let found := (s.sought.find? content.toArray 0).isSome
    ⟨number, offset, line, found != s.inverted⟩ ::
      s.rows (number + 1) (offset + line.length) rest

/-- The rows with as many selected as are wanted. -/
def limited : Option Nat → List Row → List Row
  | none, rows => rows
  | some _, [] => []
  | some 0, row :: rest => { row with selected := false } :: limited (some 0) rest
  | some (n + 1), row :: rest => row :: limited (some (if row.selected then n else n + 1)) rest

/-- Tells of every row whether one selected is among it and the `reach` rows before it. -/
def near (reach : Nat) : Nat → List Row → List Bool
  | _, [] => []
  | left, row :: rest =>
    let here := if row.selected then reach + 1 else left
    (0 < here) :: near reach (here - 1) rest

/-- The rows to show: those selected, and their neighbours. -/
def shown (s : LineSearch) (rows : List Row) : List Row :=
  let behind := near s.after 0 rows
  let ahead := (near s.before 0 rows.reverse).reverse
  ((rows.zip (behind.zip ahead)).filter (fun r => r.2.1 || r.2.2)).map Prod.fst

/-- What stands before a line or a part. -/
def heading (s : LineSearch) (name : Option Bytes) (row : Row) (offset : Nat) : Bytes :=
  let sign := [if row.selected then byte ':' else byte '-']
  (match name with
    | none => []
    | some name => name ++ (if s.zeroNames then [0] else sign)) ++
    (if s.numbers then (Text.ofNat row.number).bytes ++ sign else []) ++
    (if s.offsets then (Text.ofNat offset).bytes ++ sign else [])

/-- What is shown of a row. -/
def rowText (s : LineSearch) (name : Option Bytes) (row : Row) : Bytes :=
  let content := s.bare row.line
  if s.showing = .parts then
    if !row.selected || s.inverted then []
    else
      let line := content.toArray
      (s.sought.parts line (line.size + 1) 0).flatMap (fun p =>
        s.heading name row (row.offset + p.1) ++ (content.take p.2).drop p.1 ++ [s.ending])
  else s.heading name row row.offset ++ content ++ [s.ending]

/-- The rows with a separator between those that are no neighbours. -/
def rowsText (s : LineSearch) (name : Option Bytes) : Option Nat → List Row → Bytes
  | _, [] => []
  | last, row :: rest =>
    let gap := (0 < s.before || 0 < s.after) && last.any (fun n => n + 1 != row.number)
    (if gap then (s.separator.map (· ++ [10])).getD [] else []) ++ s.rowText name row ++
      s.rowsText name (some row.number) rest

end LineSearch

/-- What has been seen in a search so far. -/
structure Searched where
  found : Bool
  failed : Bool
  /-- Whether lines were shown, so that a separator stands before others. -/
  shown : Bool

/-- How many bytes of the lines lie before the end of the n-th row that is selected. -/
def behindSelected : Nat → List Row → Nat
  | 0, _ => 0
  | _, [] => 0
  | n + 1, row :: rest =>
    if row.selected then
      if n = 0 then row.offset + row.line.length else behindSelected n rest
    else behindSelected (n + 1) rest

namespace LineSearch

/-- Whether one line in a file tells all that is wanted. -/
def findsOneOnly (s : LineSearch) : Bool :=
  match s.showing with
  | .names _ | .nothing => true
  | _ => false

/-- Searches what is behind a number and shows what was found. -/
def through (s : LineSearch) (program : Bytes) (name : Bytes) (named : Bool) (fd : Nat)
    (state : Searched) : Run Searched := do
  let label := if name = bytesOf "-" then bytesOf "(standard input)" else name
  let file ← fileBehind fd
  let (bytes, state) ← match ← (Call.peek fd : Call _) with
    | .ok stream => pure (searchable stream, state)
    | .error e => do
      if !s.silent then complainOf program label e
      pure ([], { state with failed := true })
  let binary := !s.asText && s.ending = 10 && bytes.contains 0
  let rows := limited (s.most.map (fun n => if s.findsOneOnly then 1 else n))
    (s.rows 1 0 (recordsOf s.ending
      (if binary then bytes.map (fun b => if b = 0 then 10 else b) else bytes)))
  let count := (rows.filter Row.selected).length
  -- When all the lines wanted were found, what follows them is not passed over.
  (match file, if s.findsOneOnly then none else s.most with
    | some (_, start), some most =>
      if count = most then moveTo fd (start + behindSelected most rows)
      else (Call.skip fd bytes.length : Call Unit)
    | _, _ => (Call.skip fd bytes.length : Call Unit))
  let state := { state with found := state.found || 0 < count }
  let prefixed := if named then some label else none
  match s.showing with
  | .nothing => return state
  | .count =>
    out ((match prefixed with
      | some name => name ++ [if s.zeroNames then 0 else byte ':']
      | none => []) ++ (Text.ofNat count).bytes ++ [10])
    return state
  | .names found =>
    if found == (0 < count : Bool) then out (label ++ [if s.zeroNames then 0 else 10])
    return state
  | .lines | .parts =>
    if count = 0 then return state
    else if binary then
      complain program (label ++ bytesOf ": binary file matches")
      return state
    else
      let last := if state.shown then some 0 else none
      let rows := s.shown rows
      let first := rows.head?.map Row.number
      -- Another file is never a neighbour.
      out (s.rowsText prefixed (if first = some 1 then last.map (fun _ => 2) else last) rows)
      return { state with shown := true }

/-- The names below a directory, as far as they are searched. -/
def below (s : LineSearch) (t : FileTree) : Nat → Bytes → Inode → List Bytes
  | 0, _, _ => []
  | fuel + 1, path, i =>
    (t.entries i).flatMap (fun e =>
      let at_ := if path.isEmpty then e.1 else path ++ [byte '/'] ++ e.1
      match (t.node? e.2).map Node.kind with
      | some (.directory ..) => s.below t fuel at_ e.2
      | some (.file _) => [at_]
      | some (.program _) => [at_]
      | some (.link _) =>
        if !s.throughLinks then []
        else match t.find true i e.1 with
          | .ok j => if t.isDirectory j then s.below t fuel at_ j else [at_]
          | .error _ => [at_]
      | _ => [])

/-- Searches operands in order, with the names of those that say so. -/
def throughAll (s : LineSearch) (program : Bytes) :
    List (Bytes × Bool) → Searched → Run Searched
  | [], state => return state
  | (operand, named) :: rest, state => do
    let searched ← match ← openOperand operand with
      | .error e =>
        if !s.silent then complainOf program operand e
        pure { state with failed := true }
      | .ok (fd, closes) =>
        let searched ← s.through program operand named fd state
        if closes then (Call.close fd : Call Unit)
        pure searched
    if s.showing = .nothing && searched.found then return searched
    else s.throughAll program rest searched

/-- The operands with the names of files below directories in place of those. -/
def expanded (s : LineSearch) (operands : List Bytes) : Run (List (Bytes × Bool)) := do
  let several := s.named.getD (1 < operands.length)
  if !s.recursive then return (orInput operands).map (fun o => (o, several))
  else
    let (t, start) ← here
    let limit := t.nodes.length + 1
    if operands.isEmpty then
      return (s.below t limit [] start).map (fun o => (o, s.named.getD true))
    else
      return operands.flatMap (fun o =>
        match t.find true start o with
        | .ok i =>
          if t.isDirectory i && o != bytesOf "-" then
            (s.below t limit (withoutTrailingSlashes o) i).map (fun p => (p, s.named.getD true))
          else [(o, several)]
        | .error _ => [(o, several)])

end LineSearch

/-! ### The program -/

/-- The lines about how `grep` is used. -/
def explainSearch (name : Bytes) : Run Unit := do
  err (bytesOf "Usage: " ++ name ++ bytesOf " [OPTION]... PATTERNS [FILE]...\n")
  pointToHelp name

/-- The patterns of a text: its lines. -/
def patternLines (text : Bytes) : List Bytes :=
  let rows := rawLines text
  let lines := rows.map (fun l => if l.getLast? == some 10 then l.dropLast else l)
  if text.getLast? == some 10 || text.isEmpty then lines ++ [[]] else lines

/-- The patterns that an option or the first operand gives. -/
def patternsOf (name : Bytes) (o : OptionGiven) : Run (List Bytes) := do
  if o.1 == 'e' then return patternLines o.2
  else match ← readOperand o.2 with
    | .stream s => return (rawLines s.bytes).map (fun l => l.filter (· != 10))
    | .notOpened e | .notRead e =>
      complainOf name o.2 e
      exit 2

/-- Reads patterns, or complains and ends the program. -/
def readPatterns (name : Bytes) (fixed extended : Bool) (patterns : List Bytes) :
    Run (List Expression) := do
  if fixed then return patterns.map Expression.ofBytes
  else
    let read := patterns.map (Expression.read ⟨extended, true⟩)
    read.forM (fun r => match r with
      | .ok _ => pure ()
      | .error fault => complain name fault.message)
    let written := read.filterMap Except.toOption
    if written.length < read.length then exit 2
    written.forM (fun w => w.remarks.forM (fun r => complain name (bytesOf "warning: " ++ r)))
    return written.map Expression.Written.expression

/-- The words with counts of neighbours, a dash and a number, written as an option. Words about
colors are left out, for there are none. -/
def modernSearch (args : List Bytes) : List Bytes :=
  let isColor := fun (word : Bytes) =>
    (bytesOf "--color").isPrefixOf word || (bytesOf "--colour").isPrefixOf word
  let words := (args.takeWhile (· != bytesOf "--")).filter (fun word => !isColor word)
  words.map (fun word =>
    if 1 < word.length && word.head? == some (byte '-') &&
        (word.drop 1).all (fun b => 48 ≤ b && b ≤ 57) then bytesOf "-C" ++ word.drop 1
    else word) ++ args.dropWhile (· != bytesOf "--")

/-- The options of `grep`. Letters that no byte has stand for long names alone. -/
def searchOptions : Options :=
  { flags := ['E', 'F', 'G', 'P', 'i', 'y', 'v', 'c', 'n', 'l', 'L', 'o', 'q', 's', 'w', 'x', 'h',
      'H', 'r', 'R', 'a', 'b', 'z', 'Z', 'U', 'T', 'ι', 'λ', 'ν']
    valued := ['e', 'f', 'm', 'A', 'B', 'C', 'σ']
    long := [("extended-regexp", 'E'), ("fixed-strings", 'F'), ("basic-regexp", 'G'),
      ("perl-regexp", 'P'), ("regexp", 'e'), ("file", 'f'), ("ignore-case", 'i'),
      ("no-ignore-case", 'ι'), ("word-regexp", 'w'), ("line-regexp", 'x'), ("null-data", 'z'),
      ("no-messages", 's'), ("invert-match", 'v'), ("max-count", 'm'), ("byte-offset", 'b'),
      ("line-number", 'n'), ("line-buffered", 'λ'), ("with-filename", 'H'),
      ("no-filename", 'h'), ("only-matching", 'o'), ("quiet", 'q'), ("silent", 'q'),
      ("text", 'a'), ("recursive", 'r'), ("dereference-recursive", 'R'),
      ("files-without-match", 'L'), ("files-with-matches", 'l'), ("count", 'c'),
      ("initial-tab", 'T'), ("null", 'Z'), ("before-context", 'B'), ("after-context", 'A'),
      ("context", 'C'), ("binary", 'U'), ("no-group-separator", 'ν'),
      ("group-separator", 'σ')] }

/-- The count of neighbouring lines that an option wants. -/
def neighbours (name : Bytes) (options : List OptionGiven) (c : Char) : Run (Option Nat) := do
  match valueOf options c with
  | none => return none
  | some word =>
    match Text.toNat? (Bytes.text word) with
    | some n => return some n
    | none =>
      complain name (word ++ bytesOf ": invalid context length argument")
      exit 2

/-- The number of lines wanted. A negative number wants all. -/
def mostWanted (name : Bytes) (options : List OptionGiven) : Run (Option Nat) := do
  match valueOf options 'm' with
  | none => return none
  | some word =>
    let digits := if word.head? == some (byte '-') then word.drop 1 else word
    match Text.toNat? (Bytes.text digits) with
    | some n => return if digits.length = word.length then some n else none
    | none =>
      complain name (bytesOf "invalid max count")
      exit 2

/-- What is shown, of the options that want it differently. -/
def showingOf (options : List OptionGiven) : Showing :=
  let has := given options
  if has 'q' then .nothing
  else match (options.filter (fun o => o.1 == 'l' || o.1 == 'L')).getLast? with
    | some o => .names (o.1 == 'l')
    | none => if has 'c' then .count else if has 'o' then .parts else .lines

/-- Searches lines. -/
def grep : Program := fun name args => do
  let (options, operands) ← match searchOptions.read true (modernSearch args) with
    | .ok r => pure r
    | .error e =>
      complain name e.message
      explainSearch name
      exit 2
  let has := given options
  let kinds := (options.filter (fun o => ['E', 'F', 'G', 'P'].contains o.1)).map Prod.fst
  if kinds.any (fun c => some c != kinds.head?) then
    complain name (bytesOf "conflicting matchers specified")
    exit 2
  let before ← neighbours name options 'B'
  let after ← neighbours name options 'A'
  let around ← neighbours name options 'C'
  let most ← mostWanted name options
  let gathered ← (options.filter (fun o => o.1 == 'e' || o.1 == 'f')).mapM (patternsOf name)
  let asked := options.any (fun o => o.1 == 'e' || o.1 == 'f')
  let (patterns, operands) ← match asked, operands with
    | true, _ => pure (gathered.flatten, operands)
    | false, first :: rest => pure (patternLines first, rest)
    | false, [] => do
      explainSearch name
      exit 2
  let expressions ← readPatterns name (kinds.head? == some 'F')
    (kinds.head? == some 'E' || kinds.head? == some 'P') patterns
  let names := (options.filter (fun o => o.1 == 'h' || o.1 == 'H')).getLast?
  let search : LineSearch :=
    { sought := ⟨expressions, has 'i' || has 'y', has 'w', has 'x'⟩
      inverted := has 'v'
      showing := showingOf options
      most
      before := before.getD (around.getD 0)
      after := after.getD (around.getD 0)
      numbers := has 'n'
      offsets := has 'b'
      named := names.map (fun o => o.1 == 'H')
      zeroNames := has 'Z'
      separator := if has 'ν' then none else some ((valueOf options 'σ').getD (bytesOf "--"))
      silent := has 's'
      ending := if has 'z' then 0 else 10
      asText := has 'a'
      recursive := has 'r' || has 'R'
      throughLinks := has 'R' }
  if most = some 0 then return 1
  else
    let searched ← search.throughAll name (← search.expanded operands) ⟨false, false, false⟩
    if search.showing = .nothing && searched.found then return 0
    else if searched.failed then return 2
    else return codeOf searched.found

end LineShell.Userland
