import LineShell.Userland.Interpreter.Signal
/-!
# Flags

Flags are letters behind a minus sign, which sets them, or a plus sign, which takes them back; most
have a long name too. They stand on the command line of the interpreter and behind `set`.
-/

namespace LineShell.Userland.Interpreter

/-- Flags with a letter set or taken back; nothing if it is no letter of the interpreter. -/
def Flags.set? (flags : Flags) (letter : UInt8) (value : Bool) : Option Flags :=
  match Char.ofNat letter.toNat with
  | 'e' => some { flags with stopsOnFailure := value }
  | 'u' => some { flags with needsValues := value }
  | 'x' => some { flags with shows := value }
  | 'n' => some { flags with onlyReads := value }
  | 'f' => some { flags with keepsPatterns := value }
  | 'a' => some { flags with exportsAll := value }
  | 'C' => some { flags with protectsFiles := value }
  | c => if "IimsvVEbp".toList.contains c then some flags else none

/-- The long names of the flags; some have no letter. -/
def longNames : List (String × Option Char) :=
  [("errexit", some 'e'), ("noglob", some 'f'), ("ignoreeof", some 'I'),
    ("interactive", some 'i'), ("monitor", some 'm'), ("noexec", some 'n'), ("stdin", some 's'),
    ("xtrace", some 'x'), ("verbose", some 'v'), ("vi", some 'V'), ("emacs", some 'E'),
    ("noclobber", some 'C'), ("allexport", some 'a'), ("notify", some 'b'), ("nounset", some 'u'),
    ("privileged", some 'p'), ("nolog", none), ("debug", none)]

/-- The flags with one set by its long name. -/
def Flags.setLong? (flags : Flags) (longName : Bytes) (value : Bool) : Option Flags :=
  match longNames.lookup (String.ofList (Bytes.text longName)) with
  | some (some letter) => flags.set? (byte letter) value
  | some none => some flags
  | none => none

/-- Flags read from the front of words. -/
structure FlagWords where
  flags : Flags
  /-- Whether the script is the next word. -/
  givesScript : Bool := false
  /-- Whether the script is the input. -/
  readsInput : Bool := false
  /-- The word that ended the flags by itself, if one did. -/
  ended : Bool := false
  /-- The sign of a word for a long name that has no such name behind it. -/
  asksForAll : Option UInt8 := none
  rest : List Bytes

/-- Reads flags from the front of words, or gives the one that there is none of. The letters of the
script and of the input count on the command line only. -/
def FlagWords.read (onCommandLine : Bool) (r : FlagWords) : List Bytes → Except Bytes FlagWords
  | [] => .ok { r with rest := [] }
  | word :: rest =>
    match word with
    | 0x2d :: [] | 0x2d :: 0x2d :: [] => .ok { r with ended := word.length = 2, rest := rest }
    | sign :: letters =>
      if sign != byte '-' && sign != byte '+' then .ok { r with rest := word :: rest }
      else
        let value := sign == byte '-'
        let step (r : FlagWords) (letter : UInt8) : Except Bytes FlagWords :=
          if letter = byte 'c' && onCommandLine then .ok { r with givesScript := true }
          else if letter = byte 's' then .ok { r with readsInput := value }
          else match r.flags.set? letter value with
            | some flags => .ok { r with flags := flags }
            | none => .error (byte '-' :: [letter])
        -- A long name stands in the next word.
        if letters = [byte 'o'] then
          match rest with
          | [] => .ok { r with asksForAll := some sign, rest := [] }
          | longName :: rest =>
            match r.flags.setLong? longName value with
            | some flags => read onCommandLine { r with flags := flags } rest
            | none => .error (bytesOf "-o " ++ longName)
        else
          match letters.foldlM step r with
          | .ok r => read onCommandLine r rest
          | .error e => .error e
    | [] => .ok { r with rest := word :: rest }

/-- The lines that tell all flags. -/
def flagLines (flags : Flags) (asCommands : Bool) : List Bytes :=
  let isSet := fun (letter : Option Char) => letter.any flags.has
  if asCommands then
    longNames.map (fun e => bytesOf (if isSet e.2 then "set -o " else "set +o ") ++ bytesOf e.1)
  else
    bytesOf "Current option settings" :: longNames.map (fun e =>
      Text.bytes (e.1.toList ++ List.replicate (16 - e.1.length) ' ') ++
        bytesOf (if isSet e.2 then "on" else "off"))

/-- The lines that tell variables, in the order of their names. -/
def variableLines (title : Bytes) (p : Variable → Bool) (s : State) : List Bytes :=
  let shown := (s.bindings.filter (fun e => p e.2)).mergeSort (fun a b => bytesLe a.1 b.1)
  shown.map (fun e => title ++ e.1 ++ (match e.2.value with
    | some v => byte '=' :: rewritten v
    | none => []))

/-- Sets flags, and the positional parameters when there are words behind the flags. -/
def setFlags (words : List Bytes) : Interp Nat := do
  let s ← get
  if words.isEmpty then
    (outLines (variableLines [] (fun v => v.value.isSome) s) : Run Unit)
    return 0
  else match FlagWords.read false { flags := s.flags, rest := [] } words with
    | .error letter => refuse (bytesOf "Illegal option " ++ letter)
    | .ok r =>
      if let some sign := r.asksForAll then
        (outLines (flagLines r.flags (sign == byte '+')) : Run Unit)
      modify fun s => { s with
        flags := r.flags
        positional := if r.rest.isEmpty && !r.ended then s.positional else r.rest }
      return 0

/-- The option letters in front of the words of a builtin, and the words behind them. -/
def optionLetters (known : String) : List Bytes → Interp (Bytes × List Bytes)
  | (0x2d :: letter :: more) :: rest => do
    if letter = byte '-' && more.isEmpty then return ([], rest)
    else
      let letters := letter :: more
      match letters.find? (fun l => !(bytesOf known).contains l) with
      | some l => refuse (bytesOf "Illegal option -" ++ [l])
      | none =>
        let (others, words) ← optionLetters known rest
        return (letters ++ others, words)
  | words => return ([], words)

end LineShell.Userland.Interpreter
