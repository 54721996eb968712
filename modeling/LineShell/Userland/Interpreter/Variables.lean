import LineShell.Userland.Interpreter.Flag
import LineShell.Userland.Pattern
/-!
# Builtins about variables

`export`, `readonly`, `local`, `unset`, `read`, `getopts` and `shift`.
-/

namespace LineShell.Userland.Interpreter

open LineShell.Userland.Script

/-- A word that names a variable and perhaps gives it a value. -/
def naming (word : Bytes) : Bytes × Option Bytes :=
  let name := word.takeWhile (· != byte '=')
  (name, if name.length = word.length then none else some (word.drop (name.length + 1)))

/-- Refuses what is no name of a variable. -/
def requireName (name : Bytes) : Interp Unit := do
  if isName name then return () else refuse (name ++ bytesOf ": bad variable name")

/-- Marks variables that words name, and gives them the values that the words hold. -/
def markVariables (mark : Variable → Variable) (shown : Variable → Bool) (words : List Bytes) :
    Interp Nat := do
  let (letters, words) ← optionLetters "p" words
  if words.isEmpty || !letters.isEmpty then
    let title := ((← get).title.getD []) ++ [byte ' ']
    (outLines (variableLines title shown (← get)) : Run Unit)
    return 0
  else
    words.forM fun word => do
      let (name, value) := naming word
      requireName name
      match value with
      | some v => assign name v
      | none => pure ()
      changeVariable name mark
    return 0

/-- Shows variables to programs. -/
def exportVariables : List Bytes → Interp Nat :=
  markVariables (fun v => { v with exported := true }) Variable.exported

/-- Makes variables keep their values for ever. -/
def fixVariables : List Bytes → Interp Nat :=
  markVariables (fun v => { v with constant := true }) Variable.constant

/-- Makes variables the own ones of the running function: they will be as they were before. -/
def shadowVariables (words : List Bytes) : Interp Nat := do
  if !(← get).inFunction then refuse (bytesOf "not in a function")
  else
    words.forM fun word => do
      let (name, value) := naming word
      requireName name
      modify fun s => { s with shadowed := (name, Table.get? name s.bindings) :: s.shadowed }
      match value with
      | some v => assign name v
      | none => changeVariable name id
    return 0

/-- Takes variables or functions away. -/
def unsetNames (words : List Bytes) : Interp Nat := do
  let (letters, words) ← optionLetters "fv" words
  if letters.getLast? = some (byte 'f') then
    modify fun s => { s with functions := words.foldl (fun t w => Table.remove w t) s.functions }
  else
    words.forM fun name => do
      requireName name
      unsetVariable name
  return 0

/-- Drops positional parameters. -/
def shiftPositional (words : List Bytes) : Interp Nat := do
  let count ← match words with
    | [] => pure 1
    | word :: _ =>
      match natural? word with
      | some n => pure n
      | none => refuse (bytesOf "Illegal number: " ++ word)
  if (← get).positional.length < count then refuse (bytesOf "can't shift that many")
  else
    modify fun s => { s with positional := s.positional.drop count }
    return 0

/-! ### Reading a line -/

/-- The first line of some bytes: what it says, how many bytes it takes, and whether it is ended by
a line feed. Unless the line is taken raw, a backslash quotes the byte behind it and joins lines. -/
def firstLine (raw : Bool) : Bytes → List MarkedByte × Nat × Bool
  | [] => ([], 0, false)
  | 0x0a :: _ => ([], 1, true)
  | 0x5c :: b :: rest =>
    let r := firstLine raw (if raw then b :: rest else rest)
    if raw then ((0x5c, false) :: r.1, r.2.1 + 1, r.2.2)
    else if b = 0x0a then (r.1, r.2.1 + 2, r.2.2)
    else ((b, true) :: r.1, r.2.1 + 2, r.2.2)
  | b :: rest =>
    let r := firstLine raw rest
    if b = 0 || (b = 0x5c && !raw) then (r.1, r.2.1 + 1, r.2.2)
    else ((b, false) :: r.1, r.2.1 + 1, r.2.2)
termination_by bytes => bytes.length
decreasing_by all_goals (try split) <;> simp only [List.length_cons] <;> omega

/-- What parts the fields of a line. -/
structure Separation where
  separators : Bytes

namespace Separation

/-- Whether a byte parts fields. -/
def parts (s : Separation) (b : MarkedByte) : Bool := !b.2 && s.separators.contains b.1

/-- Whether a byte parts fields and any number of such bytes part the same fields. -/
def isBlank (s : Separation) (b : MarkedByte) : Bool :=
  s.parts b && standardSeparators.contains b.1

/-- The line without one separator and the blanks around it. -/
def dropSeparator (s : Separation) (line : List MarkedByte) : List MarkedByte :=
  let line := line.dropWhile s.isBlank
  match line with
  | b :: rest => if s.parts b then rest.dropWhile s.isBlank else line
  | [] => []

/-- The last field: all that is left, but for blanks at its end and for one separator if that ends
the only field left. -/
def lastField (s : Separation) (line : List MarkedByte) : List MarkedByte :=
  let field := line.takeWhile (fun b => !s.parts b)
  if (s.dropSeparator (line.drop field.length)).isEmpty then field
  else (line.reverse.dropWhile s.isBlank).reverse

/-- The fields of a line, one for each name. -/
def fields (s : Separation) : List Bytes → List MarkedByte → List (Bytes × Bytes)
  | [], _ => []
  | [name], line => [(name, unmarked (s.lastField line))]
  | name :: more, line =>
    let field := line.takeWhile (fun b => !s.parts b)
    (name, unmarked field) :: fields s more (s.dropSeparator (line.drop field.length))

end Separation

/-- Reads one line of the input into variables. -/
def readVariables (words : List Bytes) : Interp Nat := do
  -- The prompt is shown at a terminal only.
  let (raw, words) ← readOptions words
  if words.isEmpty then refuse (bytesOf "arg count")
  else
    let stream ← (Call.peek 0 : Call (Except Errno Stream))
    let (line, count, ended) := firstLine raw ((stream.toOption.map Stream.bytes).getD [])
    (Call.skip 0 count : Call Unit)
    let s : Separation := ⟨← separators⟩
    (s.fields words (line.dropWhile s.isBlank)).forM fun field => do
      requireName field.1
      assign field.1 field.2
    return codeOf ended
where
  /-- Whether the line is taken raw, and the names. -/
  readOptions : List Bytes → Interp (Bool × List Bytes)
    | (0x2d :: 0x70 :: []) :: _ :: rest => readOptions rest
    | (0x2d :: 0x70 :: []) :: [] => refuse (bytesOf "No arg for -p option")
    | (0x2d :: 0x72 :: []) :: rest => do
      let (_, words) ← readOptions rest
      return (true, words)
    | words => do
      let (letters, words) ← optionLetters "r" words
      return (!letters.isEmpty, words)

/-! ### Reading options -/

/-- Where the reading of options stands: the number of the next word, and how far the present one
has been read, if it is not at its end. -/
structure OptionPosition where
  index : Nat
  offset : Nat

/-- What the next option is. -/
inductive NextOption where
  | ended
  | letter (l : UInt8) (value : Option Bytes)
  | unknown (l : UInt8)
  | withoutValue (l : UInt8)

/-- Whether a letter is known, and whether it takes a value. -/
def optionKind? (known : Bytes) (l : UInt8) : Option Bool :=
  match known with
  | [] => none
  | k :: rest => if k = l then some (rest.head? == some (byte ':')) else optionKind? rest l

/-- The next option among words, and the position behind it. -/
def nextOption (known : Bytes) (words : List Bytes) (p : OptionPosition) :
    NextOption × OptionPosition :=
  let inside := if p.offset = 0 || p.index ≤ 1 then []
    else ((words.drop (p.index - 2)).head?.getD []).drop p.offset
  let begin? : Option (Bytes × OptionPosition) :=
    if !inside.isEmpty then some (inside, p)
    else match (words.drop (p.index - 1)).head? with
      | some (0x2d :: letters) =>
        if letters.isEmpty then none else some (letters, ⟨p.index + 1, 1⟩)
      | _ => none
  match begin? with
  | none => (.ended, ⟨p.index, 0⟩)
  | some ([], p) => (.ended, p)
  | some (l :: more, p) =>
    if l = byte '-' && more.isEmpty && p.offset = 1 then (.ended, ⟨p.index, 0⟩)
    else
      let behind : OptionPosition := ⟨p.index, if more.isEmpty then 0 else p.offset + 1⟩
      match optionKind? known l with
      | none => (.unknown l, behind)
      | some false => (.letter l (some []), behind)
      | some true =>
        if !more.isEmpty then (.letter l (some more), ⟨p.index, 0⟩)
        else match (words.drop (p.index - 1)).head? with
          | some value => (.letter l (some value), ⟨p.index + 1, 0⟩)
          | none => (.withoutValue l, ⟨p.index, 0⟩)

/-- Reads the next option of words into a variable. -/
def getOption (words : List Bytes) : Interp Nat := do
  match words with
  | known :: name :: given =>
    let s ← get
    let words := if given.isEmpty then s.positional else given
    let index := max 1 (((← value? (bytesOf "OPTIND")).bind natural?).getD 1)
    let offset := s.optionOffset
    let (next, p) := nextOption known words
      (if words.length + 1 < index then ⟨1, 0⟩ else ⟨index, offset⟩)
    let silent := known.head? = some (byte ':')
    let noted := fun (value : Option Bytes) => match value with
      | some v => assign (bytesOf "OPTARG") v
      | none => unsetVariable (bytesOf "OPTARG")
    let letter ← match next with
      | .ended => pure (byte '?')
      | .letter l value => do noted value; pure l
      | .unknown l => do
        if silent then noted (some [l])
        else
          (err (bytesOf "Illegal option -" ++ [l, 10]) : Run Unit)
          noted none
        pure (byte '?')
      | .withoutValue l => do
        if silent then noted (some [l])
        else
          (err (bytesOf "No arg for -" ++ l :: bytesOf " option\n") : Run Unit)
          noted none
        pure (if silent then byte ':' else byte '?')
    assign (bytesOf "OPTIND") (decimal p.index)
    requireName name
    assign name [letter]
    modify fun s => { s with optionOffset := p.offset }
    return match next with
      | .ended => 1
      | _ => 0
  | _ => refuse (bytesOf "Usage: getopts optstring var [arg...]")

end LineShell.Userland.Interpreter
