import LineShell.Toml.Value
/-!
# Scalars of a document

Strings in their four forms, numbers, points in time and truth values. Every reader takes the text
from its first character on and gives what it read together with the rest, or says why the text is
not of this form.
-/

namespace LineShell.Toml.Scalar

/-- Blanks inside a line. -/
def isBlank (c : Char) : Bool := c == ' ' || c == '\t'

/-- Leaves out blanks. -/
def skipBlanks (t : Text) : Text := t.dropWhile isBlank

/-- Takes a line end: a line feed, with or without a carriage return before it. -/
def newline? : Text → Option Text
  | '\n' :: rest => some rest
  | '\r' :: '\n' :: rest => some rest
  | _ => none

/-- Characters that may stand in a comment or a string: no control characters but the tab. Quotes
and backslashes are for the string to exclude. -/
def isPlain (c : Char) : Bool :=
  c == '\t' || (0x20 ≤ c.toNat && c.toNat ≤ 0x7E) || 0x80 ≤ c.toNat

/-- Takes one given character. -/
def one (c : Char) (t : Text) : Except Fault Text :=
  match t with
  | d :: rest => if c == d then .ok rest else .error (.atPlace t)
  | [] => .error (.atPlace t)

/-! ### Strings -/

/-- The value of a hexadecimal digit. -/
def hexDigit? (c : Char) : Option Nat :=
  if c.isDigit then some (c.toNat - 48)
  else if 'a' ≤ c && c ≤ 'f' then some (c.toNat - 87)
  else if 'A' ≤ c && c ≤ 'F' then some (c.toNat - 55)
  else none

/-- The number that digits write in a base. -/
def numberIn (base : Nat) (digits : Text) : Nat :=
  digits.foldl (fun n c => base * n + (hexDigit? c).getD 0) 0

/-- The character of a number of exactly so many hexadecimal digits. -/
def unicode (count : Nat) (t : Text) : Except Fault (Char × Text) :=
  let digits := (t.take count).takeWhile (fun c => (hexDigit? c).isSome)
  let n := numberIn 16 digits
  if digits.length < count then .error (.atPlace t)
  else if h : n.isValidChar then .ok (⟨n.toUInt32, by
    rcases h with h | ⟨h, h'⟩
    · left; simp only [Nat.toUInt32, UInt32.toNat_ofNat']; omega
    · right; simp only [Nat.toUInt32, UInt32.toNat_ofNat']; omega⟩, t.drop count)
  else .error { Fault.atPlace t with cause := some .outOfRange }

/-- The characters that may stand behind a backslash. -/
def escapes : Text := ['b', 'f', 'n', 'r', 't', 'u', 'U', '\\', '"']

/-- The character of an escape, behind its backslash. -/
def escape (t : Text) : Except Fault (Char × Text) :=
  match t with
  | [] => .error (.atPlace t)
  | 'b' :: rest => .ok ('\x08', rest)
  | 't' :: rest => .ok ('\t', rest)
  | 'n' :: rest => .ok ('\n', rest)
  | 'f' :: rest => .ok ('\x0c', rest)
  | 'r' :: rest => .ok ('\r', rest)
  | '"' :: rest => .ok ('"', rest)
  | '\\' :: rest => .ok ('\\', rest)
  | 'u' :: rest => labelled "unicode 4-digit hex code" (settled (unicode 4 rest))
  | 'U' :: rest => labelled "unicode 8-digit hex code" (settled (unicode 8 rest))
  | c :: rest =>
    -- One byte is taken before the fault shows, which is a whole character in ASCII only.
    expecting (escapes.map fun c => .literal [c]) <| labelled "escape sequence" <|
      settled (.error (.atPlace (if c.toNat < 0x80 then rest else t)))

/-- The closing quotes of a string that are missing in a place. -/
def unclosed {α : Type} (label : String) (t : Text) : Except Fault α :=
  labelled label (settled (.error (.atPlace t)))

/-- The inside of a basic string, up to the closing quote. -/
def basic : Nat → Text → Text → Except Fault (Text × Text)
  | 0, _, t => unclosed "basic string" t
  | fuel + 1, taken, t =>
    match t with
    | '"' :: rest => .ok (taken.reverse, rest)
    | '\\' :: rest =>
      match escape rest with
      | .ok (c, rest) => basic fuel (c :: taken) rest
      | .error f => if f.settled then .error f else unclosed "basic string" t
    | c :: rest => if isPlain c then basic fuel (c :: taken) rest else unclosed "basic string" t
    | [] => unclosed "basic string" t

/-- The inside of a literal string, up to the closing quote. -/
def literal (t : Text) : Except Fault (Text × Text) :=
  let body := t.takeWhile (fun c => isPlain c && c != '\'')
  match t.drop body.length with
  | '\'' :: rest => .ok (body, rest)
  | rest => unclosed "literal string" rest

/-- What follows a backslash at the end of a line: all blanks and line ends are left out. -/
def skipLineEnds : Nat → Text → Text
  | 0, t => t
  | fuel + 1, t =>
    match t with
    | c :: rest =>
      if isBlank c then skipLineEnds fuel rest
      else match newline? t with
        | some rest => skipLineEnds fuel rest
        | none => t
    | [] => []

/-- The character that a backslash and what follows it stand for: none at the end of a line. -/
def escapeOrLineEnd (t : Text) : Except Fault (Option Char × Text) :=
  match newline? (skipBlanks t) with
  | some rest => .ok (none, skipLineEnds rest.length rest)
  | none => (escape t).map fun r => (some r.1, r.2)

/-- One piece of a string over several lines that is no quote: a character, a line end, or what a
backslash stands for. -/
def piece (escapes : Bool) (t : Text) : Except Fault (Option Char × Text) :=
  match t with
  | [] => .error (.atPlace t)
  | c :: rest =>
    if c == '\\' && escapes then escapeOrLineEnd rest
    else match newline? t with
      | some rest => .ok (some '\n', rest)
      | none => if isPlain c then .ok (some c, rest) else .error (.atPlace t)

/-- The inside of a string over several lines with a given quote. A run of three quotes or more
closes it; up to two more quotes before the closing three belong to the string. A fault right behind
one or two quotes counts as one before them, or before the backslash there. -/
def multiline (label : String) (quote : Char) (escapes : Bool) :
    Nat → Text → Text → Except Fault (Text × Text)
  | 0, _, t => unclosed label t
  | fuel + 1, taken, t =>
    let run := t.takeWhile (· == quote)
    let behind := t.drop run.length
    if 3 ≤ run.length then
      -- The last three of the run close the string.
      let extra := min (run.length - 3) 2
      .ok ((run.take extra ++ taken).reverse, t.drop (extra + 3))
    else match piece escapes behind with
      | .ok (c, rest) => multiline label quote escapes fuel (c.toList ++ run ++ taken) rest
      | .error f =>
        if !f.settled then unclosed label t
        else labelled label (.error (if run.isEmpty then f else { f with rest := behind }))

/-- A string in any of its forms. -/
def string (t : Text) : Except Fault (Text × Text) :=
  let afterFirstEnd := fun (rest : Text) => (newline? rest).getD rest
  match t with
  | '"' :: '"' :: '"' :: rest =>
    multiline "multiline basic string" '"' true (t.length + 1) [] (afterFirstEnd rest)
  | '"' :: rest => basic (t.length + 1) [] rest
  | '\'' :: '\'' :: '\'' :: rest =>
    multiline "multiline literal string" '\'' false (t.length + 1) [] (afterFirstEnd rest)
  | '\'' :: rest => literal rest
  | _ => .error (.atPlace t)

/-! ### Numbers -/

/-- A digit is missing. -/
def digitExpected : List Expectation := [.words (Text.lit "digit")]

/-- Digits of a class behind a first one; an underscore may stand between any two. -/
def moreDigits (p : Char → Bool) : Text → Except Fault (Text × Text)
  | [] => .ok ([], [])
  | '_' :: c :: rest =>
    if p c then (moreDigits p rest).map fun r => (c :: r.1, r.2)
    else expecting digitExpected (settled (.error (.atPlace (c :: rest))))
  | '_' :: [] => expecting digitExpected (settled (.error (.atPlace [])))
  | c :: rest =>
    if p c then (moreDigits p rest).map fun r => (c :: r.1, r.2) else .ok ([], c :: rest)

/-- Digits of a class, at least one, with single underscores between them. -/
def digits (p : Char → Bool) (t : Text) : Except Fault (Text × Text) :=
  match t with
  | c :: rest =>
    if p c then (moreDigits p rest).map fun r => (c :: r.1, r.2) else .error (.atPlace t)
  | [] => .error (.atPlace t)

/-- The sign of a number, and what follows. -/
def sign : Text → Bool × Text
  | '-' :: rest => (true, rest)
  | '+' :: rest => (false, rest)
  | t => (false, t)

/-- A whole number in decimal digits without leading zeros: its sign and its digits. -/
def whole (t : Text) : Except Fault ((Bool × Text) × Text) :=
  labelled "integer" <|
    let (negative, t) := sign t
    match t with
    | '0' :: rest => .ok ((negative, ['0']), rest)
    | _ => (digits Char.isDigit t).map fun r => ((negative, r.1), r.2)

/-- The numbers of 64 bits with a sign lie below this one, and its negative is the least of them. -/
def limit : Int := 0x8000000000000000

/-- A number, if it lies in the range of 64 bits with a sign; `start` is what its first character
begins. -/
def inRange (start : Text) (n : Int) (rest : Text) : Except Fault (Int × Text) :=
  if limit ≤ n then .error { Fault.atPlace start with cause := some .tooGreat, settled := true }
  else if n < -limit then
    .error { Fault.atPlace start with cause := some .tooSmall, settled := true }
  else .ok (n, rest)

/-- A whole number in a base named by a letter behind a zero; `start` begins with the zero. -/
def based (label : String) (base : Nat) (p : Char → Bool) (start t : Text) :
    Except Fault (Int × Text) := do
  let (digits, rest) ← labelled label (settled (digits p t))
  inRange start (numberIn base digits) rest

/-- A whole number. -/
def integer (t : Text) : Except Fault (Int × Text) :=
  match t with
  | '0' :: 'x' :: rest =>
    based "hexadecimal integer" 16 (fun c => (hexDigit? c).isSome) t rest
  | '0' :: 'o' :: rest => based "octal integer" 8 (fun c => '0' ≤ c && c ≤ '7') t rest
  | '0' :: 'b' :: rest => based "binary integer" 2 (fun c => c == '0' || c == '1') t rest
  | _ => do
    let ((negative, digits), rest) ← whole t
    let n : Int := numberIn 10 digits
    inRange t (if negative then -n else n) rest

/-- Whether a character announces an exponent. -/
def startsExponent (c : Char) : Bool := c == 'e' || c == 'E'

/-- The exponent of a number. -/
def exponent (t : Text) : Except Fault (Int × Text) :=
  match t with
  | c :: rest =>
    if startsExponent c then settled do
      let (negative, rest) := sign rest
      let (digits, rest) ← digits Char.isDigit rest
      let n : Int := numberIn 10 digits
      return (if negative then -n else n, rest)
    else .error (.atPlace t)
  | [] => .error (.atPlace t)

/-- A number with a fraction or an exponent. -/
def written (t : Text) : Except Fault (Decimal × Text) := do
  let ((negative, whole), rest) ← whole t
  let (fraction, e, rest) ← match rest with
    | '.' :: rest => do
      let (fraction, rest) ← expecting digitExpected (settled (digits Char.isDigit rest))
      let (e, rest) ← orValue (0, rest) (exponent rest)
      pure (fraction, e, rest)
    | _ => do
      let (e, rest) ← exponent rest
      pure ([], e, rest)
  let number := numberIn 10 (whole ++ fraction)
  let e := e - fraction.length
  -- Only a positive number can be too great.
  if !negative && Decimal.overflows number e then
    settled (.error (.atPlace t))
  else return (.finite negative number e, rest)

/-- One of the special numbers. -/
def special (t : Text) : Except Fault (Decimal × Text) :=
  let (negative, unsigned) := sign t
  match unsigned with
  | 'i' :: 'n' :: 'f' :: rest => .ok (.infinite negative, rest)
  | 'n' :: 'a' :: 'n' :: rest => .ok (.notANumber, rest)
  | _ => .error (.atPlace unsigned)

/-- A number with a fraction or an exponent, or one of the special numbers. -/
def decimal (t : Text) : Except Fault (Decimal × Text) :=
  labelled "floating-point number" (orElse (written t) (special t))

/-! ### Points in time -/

/-- Exactly so many digits, writing a number in a range. -/
def fixed (count low high : Nat) (t : Text) : Except Fault (Nat × Text) :=
  let digits := (t.take count).takeWhile Char.isDigit
  let n := numberIn 10 digits
  if digits.length < count then .error (.atPlace t)
  else if low ≤ n && n ≤ high then .ok (n, t.drop count)
  else .error { Fault.atPlace t with cause := some .outOfRange }

/-- Whether a year has a leap day. -/
def isLeap (year : Nat) : Bool := year % 4 == 0 && (year % 100 != 0 || year % 400 == 0)

/-- How many days a month has. -/
def daysIn (year month : Nat) : Nat :=
  if month = 2 then (if isLeap year then 29 else 28)
  else if [4, 6, 9, 11].contains month then 30 else 31

/-- A date. -/
def date (t : Text) : Except Fault Text := do
  let (year, t) ← fixed 4 0 9999 t
  let t ← one '-' t
  settled do
    let (month, t) ← fixed 2 1 12 t
    let t ← one '-' t
    let (_, t) ← fixed 2 1 (daysIn year month) t
    return t

/-- A time of day; digits may stand behind a point. -/
def time (t : Text) : Except Fault Text := do
  let (_, t) ← fixed 2 0 23 t
  let t ← one ':' t
  settled do
    let (_, t) ← fixed 2 0 59 t
    let t ← one ':' t
    let (_, t) ← fixed 2 0 60 t
    match t with
    | '.' :: c :: rest => if c.isDigit then return rest.dropWhile Char.isDigit else return t
    | _ => return t

/-- The distance from the zero meridian. -/
def offset (t : Text) : Except Fault Text :=
  labelled "time offset" <|
    match t with
    | 'Z' :: rest | 'z' :: rest => .ok rest
    | c :: rest =>
      if c == '+' || c == '-' then settled do
        let (_, t) ← fixed 2 0 23 rest
        let t ← one ':' t
        let (_, t) ← fixed 2 0 59 t
        return t
      else .error (.atPlace t)
    | [] => .error (.atPlace t)

/-- The time of day behind a date. -/
def timeBehind (t : Text) : Except Fault Text :=
  match t with
  | c :: rest =>
    if c == 'T' || c == 't' || c == ' ' then do
      let rest ← time rest
      orValue rest (offset rest)
    else .error (.atPlace t)
  | [] => .error (.atPlace t)

/-- A date, a time, or both. -/
def dateTime (t : Text) : Except Fault Text :=
  orElse
    (labelled "date-time" do
      let rest ← date t
      orValue rest (timeBehind rest))
    (labelled "time" (time t))

/-! ### Scalars -/

/-- What is no value counts as a string without its quotes. -/
def unquoted {α : Type} (t : Text) : Except Fault α :=
  expecting [.literal ['"'], .literal ['\'']] <| labelled "string" (.error (.atPlace t))

/-- A number or a point in time. -/
def numeric (t : Text) : Except Fault (Value × Text) :=
  orElse ((dateTime t).map fun rest => (.dateTime, rest)) <|
    orElse ((decimal t).map fun r => (.decimal r.1, r.2)) <|
      (integer t).map fun r => (.integer r.1, r.2)

/-- A scalar of any kind, told by its first character. -/
def value (t : Text) : Except Fault (Value × Text) :=
  let digitFirst : List Expectation := [.words (Text.lit "leading digit")]
  match t with
  | [] => .error (.atPlace t)
  | '"' :: _ | '\'' :: _ => (string t).map fun r => (.string r.1, r.2)
  | 't' :: 'r' :: 'u' :: 'e' :: rest => .ok (.boolean true, rest)
  | 'f' :: 'a' :: 'l' :: 's' :: 'e' :: rest => .ok (.boolean false, rest)
  | 'i' :: 'n' :: 'f' :: rest => .ok (.decimal (.infinite false), rest)
  | 'n' :: 'a' :: 'n' :: rest => .ok (.decimal .notANumber, rest)
  | c :: _ =>
    if c == '+' || c == '-' || c.isDigit then numeric t
    -- A number that begins with a wrong character is a number still.
    else if c == '_' then
      expecting digitFirst ((integer t).map fun r => (.integer r.1, r.2))
    else if c == '.' then
      expecting digitFirst ((decimal t).map fun r => (.decimal r.1, r.2))
    else if c == 't' || c == 'f' then settled (unquoted t)
    else unquoted t

end LineShell.Toml.Scalar
