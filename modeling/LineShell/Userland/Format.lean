import LineShell.Userland.Tree
/-!
# Escapes and formats

`echo` and `printf`. A format is text with escapes and conversions; `formatAll` goes over it until
the arguments are used up. What comes out is a list of `Piece`s, text and faults in their order, so
that the program and the builtin of the command interpreter can word the same faults differently.
-/

namespace LineShell.Userland

/-! ### Escapes and echo -/

/-- Whether a byte is an octal digit. -/
def isOctal (b : UInt8) : Bool := 48 ≤ b && b ≤ 55

/-- The value of a hexadecimal digit. -/
def hexValue? (b : UInt8) : Option Nat :=
  let n := b.toNat
  if 48 ≤ n && n ≤ 57 then some (n - 48)
  else if 97 ≤ n && n ≤ 102 then some (n - 87)
  else if 65 ≤ n && n ≤ 70 then some (n - 55)
  else none

/-- The byte of a letter behind a backslash. -/
def letterEscape? (b : UInt8) : Option UInt8 :=
  match Char.ofNat b.toNat with
  | '\\' => some 92
  | 'a' => some 7
  | 'b' => some 8
  | 'e' => some 27
  | 'f' => some 12
  | 'n' => some 10
  | 'r' => some 13
  | 't' => some 9
  | 'v' => some 11
  | _ => none

/-- The number that digits write in a base. -/
def numeral (base : Nat) (digits : Bytes) : Nat :=
  digits.foldl (fun n b => base * n + (hexValue? b).getD 0) 0

/-- The number that octal digits write. -/
def octalValue (digits : Bytes) : UInt8 := (numeral 8 digits).toUInt8

/-- Writes out escapes; the flag says that `\c` was met, which ends all output. With `bareOctal` an
octal number needs no leading zero. -/
def unescape (bareOctal : Bool) : Nat → Bytes → Bytes × Bool
  | 0, _ => ([], false)
  | fuel + 1, bytes =>
    match bytes with
    | [] => ([], false)
    | 0x5c :: c :: rest =>
      let more := fun (b : Bytes) (rest : Bytes) =>
        let r := unescape bareOctal fuel rest
        (b ++ r.1, r.2)
      if c == byte 'c' then ([], true)
      else if c == byte '0' && !bareOctal then
        let digits := (rest.take 3).takeWhile isOctal
        more [octalValue digits] (rest.drop digits.length)
      else if bareOctal && isOctal c then
        let digits := ((c :: rest).take (if c == byte '0' then 4 else 3)).takeWhile isOctal
        more [octalValue digits] ((c :: rest).drop digits.length)
      else if c == byte 'x' then
        let digits := (rest.take 2).takeWhile (fun b => (hexValue? b).isSome)
        if digits.isEmpty then more [0x5c, c] rest
        else more [(numeral 16 digits).toUInt8] (rest.drop digits.length)
      else match letterEscape? c with
        | some b => more [b] rest
        | none => more [0x5c, c] rest
    | b :: rest =>
      let r := unescape bareOctal fuel rest
      (b :: r.1, r.2)

/-- Whether a word is an option of `echo`: a dash and only known letters. -/
def isEchoOption (word : Bytes) : Bool :=
  match word with
  | 0x2d :: letters =>
    !letters.isEmpty && letters.all (fun b => b == byte 'n' || b == byte 'e' || b == byte 'E')
  | _ => false

/-- What `echo` writes. -/
def echoText (newline escapes : Bool) (words : List Bytes) : Bytes :=
  let body := Bytes.join [byte ' '] words
  let (body, stopped) := if escapes then unescape false (body.length + 1) body else (body, false)
  body ++ (if newline && !stopped then [10] else [])

/-- Writes its arguments. -/
def echo : Program := fun _ args => do
  let options := args.takeWhile isEchoOption
  let letters := options.flatten
  let escapes :=
    (letters.filter (fun b => b == byte 'e' || b == byte 'E')).getLast? == some (byte 'e')
  out (echoText (!letters.contains (byte 'n')) escapes (args.drop options.length))
  return 0

/-! ### Numbers -/

/-- An integer as a program reads it; nothing if it is none. -/
def integer? (word : Bytes) : Option Int :=
  match Bytes.text word with
  | '-' :: digits => (Text.toNat? digits).map (fun n => -(n : Int))
  | '+' :: digits => (Text.toNat? digits).map (fun n => (n : Int))
  | digits => (Text.toNat? digits).map (fun n => (n : Int))

/-- An integer in decimal digits. -/
def integerText (n : Int) : Text :=
  match n with
  | .ofNat n => Text.ofNat n
  | .negSucc n => '-' :: Text.ofNat (n + 1)

/-- A text in a field: to the left or the right of it, filled with blanks or zeros. -/
def inField (left zero : Bool) (width : Nat) (t : Bytes) : Bytes :=
  let gap := width - t.length
  if left then t ++ List.replicate gap 32
  else if zero then
    match t with
    | 0x2d :: digits => byte '-' :: (List.replicate gap 48 ++ digits)
    | 0x2b :: digits => byte '+' :: (List.replicate gap 48 ++ digits)
    | _ => List.replicate gap 48 ++ t
  else List.replicate gap 32 ++ t

/-- What is wrong with a format or with an argument of it. -/
inductive FormatFault where
  | noNumber (argument : Bytes)
  /-- Something stands behind the number. -/
  | trailing (argument : Bytes)
  | tooLarge (argument : Bytes)
  | directive (written : Bytes)
  | noLetter

/-- A sign and what stands behind it. -/
def signed (bytes : Bytes) : Bool × Bytes :=
  match bytes with
  | 0x2d :: rest => (true, rest)
  | 0x2b :: rest => (false, rest)
  | _ => (false, bytes)

/-- The number of an argument: in base sixteen behind `0x`, in base eight behind `0`, and behind a
quote the code of a character. It lies between the bounds. -/
def argumentNumber (low high : Int) (argument : Bytes) : Int × List FormatFault :=
  match argument with
  | 0x27 :: b :: _ | 0x22 :: b :: _ => (b.toNat, [])
  | _ =>
    let (negative, body) := signed (argument.dropWhile isSpace)
    let isHex := fun (b : UInt8) => (hexValue? b).isSome
    let isDigit := fun (b : UInt8) => 48 ≤ b && b ≤ 57
    let (base, digits, rest) : Nat × Bytes × Bytes := match body with
      | 0x30 :: x :: d :: more =>
        if (x == byte 'x' || x == byte 'X') && isHex d then
          let digits := (d :: more).takeWhile isHex
          (16, digits, (d :: more).drop digits.length)
        else
          let digits := body.takeWhile isOctal
          (8, digits, body.drop digits.length)
      | 0x30 :: _ =>
        let digits := body.takeWhile isOctal
        (8, digits, body.drop digits.length)
      | _ =>
        let digits := body.takeWhile isDigit
        (10, digits, body.drop digits.length)
    let magnitude : Int := numeral base digits
    let value := if negative then -magnitude else magnitude
    if argument.isEmpty then (0, [])
    else if digits.isEmpty then (0, [.noNumber argument])
    else if value < low then (low, [.tooLarge argument])
    else if high < value then (high, [.tooLarge argument])
    else (value, if rest.isEmpty then [] else [.trailing argument])

/-- The decimal number of an argument with so many digits behind the point, rounded to the nearest,
half to even. -/
def fixedPoint (precision : Nat) (argument : Bytes) : Bytes × List FormatFault :=
  let isDigit := fun (b : UInt8) => 48 ≤ b && b ≤ 57
  let (negative, body) := signed (argument.dropWhile isSpace)
  let whole := body.takeWhile isDigit
  let (fraction, rest) := match body.drop whole.length with
    | 0x2e :: more =>
      let fraction := more.takeWhile isDigit
      (fraction, more.drop fraction.length)
    | rest => ([], rest)
  let digits := whole ++ fraction
  let exact := numeral 10 digits
  let scaled :=
    if fraction.length ≤ precision then exact * Nat.pow 10 (precision - fraction.length)
    else
      let unit := Nat.pow 10 (fraction.length - precision)
      let floor := exact / unit
      let twice := 2 * (exact % unit)
      if unit < twice || (twice == unit && floor % 2 == 1) then floor + 1 else floor
  let shown := Text.ofNat scaled
  let shown := List.replicate (precision + 1 - shown.length) '0' ++ shown
  let split := shown.length - precision
  let text := (if negative then ['-'] else []) ++ shown.take split ++
    (if precision = 0 then [] else '.' :: shown.drop split)
  (Text.bytes text,
    if argument.isEmpty then []
    else if digits.isEmpty then [.noNumber argument]
    else if rest.isEmpty then [] else [.trailing argument])

/-! ### Formats -/

/-- Who goes over a format: the program, or the builtin of the command interpreter. The builtin
knows no hexadecimal escapes and no `\c` in the format itself, and takes fields for `%b`. -/
inductive FormatUser where
  | program
  | builtin
  deriving DecidableEq

/-- A piece of what a format makes: text, or a fault met there. -/
inductive Piece where
  | text (shown : Bytes)
  | fault (f : FormatFault)

/-- One conversion of a format: flags, width, precision, letter, and what follows. -/
structure Conversion where
  flags : Bytes
  width : Nat
  precision : Option Nat
  letter : UInt8
  /-- The conversion as it is written, with its percent sign. -/
  written : Bytes
  rest : Bytes

namespace Conversion

/-- Whether a flag is given. -/
def has (c : Conversion) (flag : Char) : Bool := c.flags.contains (byte flag)

/-- Reads a conversion behind its percent sign. A star takes its number from the arguments; those
left over come with the conversion, and nothing when the letter is missing. -/
def read (user : FormatUser) (bytes : Bytes) (args : List Bytes) :
    Option (Conversion × List Bytes) :=
  let isDigit := fun (b : UInt8) => 48 ≤ b && b ≤ 57
  let starred := fun (bytes : Bytes) (args : List Bytes) => match bytes with
    | 0x2a :: rest =>
      ((args.head?.bind integer?).getD 0, rest, args.drop 1)
    | _ =>
      let digits := bytes.takeWhile isDigit
      ((numeral 10 digits : Int), bytes.drop digits.length, args)
  let flags := bytes.takeWhile (bytesOf "-0+ #").contains
  let (width, behind, args) := starred (bytes.drop flags.length) args
  let (precision, behind, args) := match behind with
    | 0x2e :: rest =>
      let (n, behind, args) := starred rest args
      (some n.toNat, behind, args)
    | _ => (none, behind, args)
  let behind := if user = .program then behind.dropWhile (bytesOf "hlLjtz").contains else behind
  match behind with
  | [] => none
  | letter :: rest =>
    let flags := if width < 0 then byte '-' :: flags else flags
    some (⟨flags, width.natAbs, precision, letter,
      byte '%' :: bytes.take (bytes.length - rest.length), rest⟩, args)

/-- Whether the flags and the letter go together. -/
def isValid (user : FormatUser) (c : Conversion) : Bool :=
  match Char.ofNat c.letter.toNat with
  | 'b' => user = .builtin || c.written.length = 2
  | 'c' => user = .builtin || (!c.has '#' && !c.has '0' && c.precision.isNone)
  | 's' => user = .builtin || (!c.has '#' && !c.has '0')
  | 'd' | 'i' | 'u' => user = .builtin || !c.has '#'
  | 'x' | 'X' | 'o' | 'f' | 'F' => true
  | _ => false

/-- Digits of a number with a least count of them, behind a prefix. -/
def withPrecision (c : Conversion) (start digits : Text) : Bytes :=
  (start ++ List.replicate (c.precision.getD 1 - digits.length) '0' ++ digits).bytes

/-- What a conversion makes of its argument, the faults met, and whether all output ends. -/
def apply (c : Conversion) (argument : Bytes) : Bytes × List FormatFault × Bool :=
  let unsignedBound : Int := 18446744073709551616
  let signedBound : Int := 9223372036854775808
  let plus := if c.has '+' then ['+'] else if c.has ' ' then [' '] else []
  let unsignedNumber :=
    let r := argumentNumber (-signedBound) (unsignedBound - 1) argument
    ((r.1 % unsignedBound).toNat, r.2)
  match Char.ofNat c.letter.toNat with
  | 's' => (match c.precision with
    | some n => argument.take n
    | none => argument, [], false)
  | 'b' =>
    let r := unescape true (argument.length + 1) argument
    (r.1, [], r.2)
  | 'c' => (if argument.isEmpty then [0] else argument.take 1, [], false)
  | 'd' | 'i' =>
    let (n, faults) := argumentNumber (-signedBound) (signedBound - 1) argument
    (c.withPrecision (if n < 0 then ['-'] else plus) (Text.ofNat n.natAbs), faults, false)
  | 'u' => (c.withPrecision [] (Text.ofNat unsignedNumber.1), unsignedNumber.2, false)
  | 'x' =>
    (c.withPrecision (if c.has '#' && unsignedNumber.1 != 0 then ['0', 'x'] else [])
      (Text.hex unsignedNumber.1), unsignedNumber.2, false)
  | 'X' =>
    (c.withPrecision (if c.has '#' && unsignedNumber.1 != 0 then ['0', 'X'] else [])
      ((Text.hex unsignedNumber.1).map Char.toUpper), unsignedNumber.2, false)
  | 'o' =>
    let digits := Nat.toDigits 8 unsignedNumber.1
    (c.withPrecision (if c.has '#' && unsignedNumber.1 != 0 then ['0'] else []) digits,
      unsignedNumber.2, false)
  | _ =>
    let (shown, faults) := fixedPoint (c.precision.getD 6) argument
    (if shown.head? == some (byte '-') then shown else Text.bytes plus ++ shown, faults, false)

/-- Whether the field is filled with zeros. -/
def fillsWithZeros (c : Conversion) : Bool :=
  let letter := Char.ofNat c.letter.toNat
  c.has '0' && letter != 's' && letter != 'c' && letter != 'b' &&
    (c.precision.isNone || letter == 'f' || letter == 'F')

end Conversion

/-- What one pass over a format comes to: the pieces, the arguments left over, whether output ended
early and whether an argument was asked for. -/
structure Formatted where
  pieces : List Piece
  left : List Bytes
  stopped : Bool
  used : Bool

/-- Text in front of what follows. -/
def Formatted.behind (shown : Bytes) (f : Formatted) : Formatted :=
  { f with pieces := .text shown :: f.pieces }

/-- One pass over a format. -/
def formatOnce (user : FormatUser) : Nat → Bytes → List Bytes → Formatted
  | 0, _, args => ⟨[], args, false, false⟩
  | fuel + 1, format, args =>
    match format with
    | [] => ⟨[], args, false, false⟩
    | 0x25 :: 0x25 :: rest => (formatOnce user fuel rest args).behind [byte '%']
    | 0x25 :: rest =>
      match Conversion.read user rest args with
      | none =>
        let fault := if user = .builtin then .noLetter else .directive (0x25 :: rest)
        ⟨[.fault fault], args, true, false⟩
      | some (c, args) =>
        if c.isValid user then
          let (shown, faults, stopped) := c.apply (args.head?.getD [])
          let made := faults.map Piece.fault ++
            [.text (inField (c.has '-') c.fillsWithZeros c.width shown)]
          if stopped then ⟨made, [], true, true⟩
          else
            let f := formatOnce user fuel c.rest (args.drop 1)
            { f with pieces := made ++ f.pieces, used := true }
        else ⟨[.fault (.directive c.written)], args, true, false⟩
    | 0x5c :: c :: rest =>
      let digits := ((c :: rest).take 3).takeWhile isOctal
      let hex := (rest.take 2).takeWhile (fun b => (hexValue? b).isSome)
      if !digits.isEmpty then
        (formatOnce user fuel ((c :: rest).drop digits.length) args).behind [octalValue digits]
      else if user = .program && c == byte 'c' then ⟨[], args, true, false⟩
      else if user = .program && c == byte 'x' && !hex.isEmpty then
        (formatOnce user fuel (rest.drop hex.length) args).behind [(numeral 16 hex).toUInt8]
      else
        (formatOnce user fuel rest args).behind
          (match letterEscape? c with
            | some b => [b]
            | none =>
              if user = .program && c == byte '"' then [c] else [0x5c, c])
    | b :: rest => (formatOnce user fuel rest args).behind [b]

/-- Goes over a format until all arguments are used. Arguments that no conversion asks for are left
over. -/
def formatAll (user : FormatUser) (format : Bytes) : Nat → List Bytes → Formatted
  | 0, args => ⟨[], args, false, false⟩
  | fuel + 1, args =>
    let f := formatOnce user (format.length + 1) format args
    if f.stopped || f.left.isEmpty || !f.used then f
    else
      let more := formatAll user format fuel f.left
      { more with pieces := f.pieces ++ more.pieces }

/-- All text of the pieces. -/
def textOf (pieces : List Piece) : Bytes :=
  pieces.flatMap (fun p => match p with
    | .text shown => shown
    | .fault _ => [])

/-- All faults of the pieces. -/
def faultsOf (pieces : List Piece) : List FormatFault :=
  pieces.filterMap (fun p => match p with
    | .text _ => none
    | .fault f => some f)

/-- How the program words a fault. -/
def FormatFault.message : FormatFault → Bytes
  | .noNumber a => Quoting.word a ++ bytesOf ": expected a numeric value"
  | .trailing a => Quoting.word a ++ bytesOf ": value not completely converted"
  | .tooLarge a => Quoting.word a ++ bytesOf ": Numerical result out of range"
  | .directive written => written ++ bytesOf ": invalid conversion specification"
  | .noLetter => bytesOf "%: invalid conversion specification"

/-- Writes pieces in their order, text that stands together at once. -/
def writePieces (name : Bytes) : Bytes → List Piece → Run Unit
  | held, [] => out held
  | held, .text shown :: rest => writePieces name (held ++ shown) rest
  | held, .fault f :: rest => do
    out held
    complain name f.message
    writePieces name [] rest

/-- Writes arguments in a format. -/
def printf : Program := fun name args => do
  let args := match args with
    | dashes :: rest => if dashes = bytesOf "--" then rest else args
    | [] => []
  match args with
  | [] => misuse name (bytesOf "missing operand") 1
  | format :: args =>
    let f := formatAll .program format (args.length + 1) args
    writePieces name [] f.pieces
    match f.stopped || f.used, f.left with
    | false, extra :: _ =>
      complain name (bytesOf "warning: ignoring excess arguments, starting with " ++
        Quoting.word extra)
    | _, _ => pure ()
    return codeOf (faultsOf f.pieces).isEmpty

end LineShell.Userland
