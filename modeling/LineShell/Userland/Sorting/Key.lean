import LineShell.Userland.Sorting.Order
/-!
# Sort keys

A key is a part of a line, from a byte of one field to a byte of another, with an order of its own.
Fields end at a separator or, without one, where blanks begin.

`SortKey.of` cuts the part out of a line, and `SortKey.ofBytes` reads what an option says of a key.
-/

namespace LineShell.Userland

/-- A part of a line to sort by. Fields and bytes are counted from zero; `stop` is the field and the
byte behind the end, byte zero being the end of the field. -/
structure SortKey where
  field : Nat
  offset : Nat
  stop : Option (Nat × Nat)
  order : KeyOrder
  /-- Whether blanks at the beginning of the first and the last field do not count. -/
  skipsFirst : Bool
  skipsLast : Bool

namespace SortKey

/-- The whole line. -/
def whole (order : KeyOrder) : SortKey := ⟨0, 0, none, order, order.has 'b', order.has 'b'⟩

/-- How many bytes the first `count` fields take; with a separator behind each if `past`. -/
def fieldsLength (separator : Option UInt8) (past : Bool) : Nat → Bytes → Nat
  | 0, _ => 0
  | count + 1, bytes =>
    if bytes.isEmpty then 0
    else match separator with
      | some tab =>
        let field := (bytes.takeWhile (· != tab)).length
        let taken := field + if (past || 0 < count) && field < bytes.length then 1 else 0
        taken + fieldsLength separator past count (bytes.drop taken)
      | none =>
        let blanks := (bytes.takeWhile isFieldBlank).length
        let taken := blanks +
          ((bytes.drop blanks).takeWhile (fun b => !isFieldBlank b)).length
        taken + fieldsLength separator past count (bytes.drop taken)

/-- The position of a byte of a field, whose leading blanks may not count. -/
def start (separator : Option UInt8) (field offset : Nat) (skips : Bool) (line : Bytes) : Nat :=
  let begun := fieldsLength separator true field line
  let blanks := if skips then ((line.drop begun).takeWhile isFieldBlank).length else 0
  min line.length (begun + blanks + offset)

/-- The part of a line. -/
def of (k : SortKey) (separator : Option UInt8) (line : Bytes) : Bytes :=
  let first := start separator k.field k.offset k.skipsFirst line
  let last := match k.stop with
    | none => line.length
    | some (field, 0) => fieldsLength separator false (field + 1) line
    | some (field, offset) => start separator field offset k.skipsLast line
  (line.take last).drop first

/-- The letters of orders. -/
def orderLetters : List Char := ['b', 'd', 'f', 'g', 'h', 'i', 'M', 'n', 'R', 'r', 'V']

/-- What is wrong with a key, and the words that show it. -/
structure KeyFault where
  message : Bytes

/-- A fault in the whole text of a key. -/
def faultIn (written : Bytes) (message : String) : KeyFault :=
  ⟨bytesOf message ++ bytesOf ": invalid field specification " ++ Quoting.word written⟩

/-- A number, and what stands behind it. -/
def number (message : String) (bytes : Bytes) : Except KeyFault (Nat × Bytes) :=
  let digits := bytes.takeWhile (fun b => 48 ≤ b && b ≤ 57)
  match Text.toNat? (Bytes.text digits) with
  | some n => .ok (n, bytes.drop digits.length)
  | none =>
    .error ⟨bytesOf message ++ bytesOf ": invalid count at start of " ++ Quoting.word bytes⟩

/-- The letters at the beginning, and what stands behind them. -/
def lettersOf (bytes : Bytes) : List Char × Bytes :=
  let letters := bytes.takeWhile (fun b => orderLetters.contains (Char.ofNat b.toNat))
  (letters.map (fun b => Char.ofNat b.toNat), bytes.drop letters.length)

/-- Reads what an option says of a key. A key without an order has the general one. -/
def ofBytes (general : KeyOrder) (written : Bytes) : Except KeyFault SortKey := do
  let (field, rest) ← number "invalid number at field start" written
  if field = 0 then throw (faultIn written "field number is zero")
  let (offset, rest) ← match rest with
    | 0x2e :: rest => do
      let (offset, rest) ← number "invalid number after '.'" rest
      if offset = 0 then throw (faultIn written "character offset is zero")
      pure (offset, rest)
    | rest => pure (1, rest)
  let (firstLetters, rest) := lettersOf rest
  let (stop, lastLetters, rest) ← match rest with
    | 0x2c :: rest => do
      let (last, rest) ← number "invalid number after ','" rest
      if last = 0 then throw (faultIn written "field number is zero")
      let (offset, rest) ← match rest with
        | 0x2e :: rest => number "invalid number after '.'" rest
        | rest => pure (0, rest)
      let (letters, rest) := lettersOf rest
      pure (some (last - 1, offset), letters, rest)
    | rest => pure (none, [], rest)
  if !rest.isEmpty then throw (faultIn written "stray character in field spec")
  let own := firstLetters ++ lastLetters
  let order := if own.isEmpty then general else ⟨own⟩
  return {
    field := field - 1, offset := offset - 1, stop, order
    skipsFirst := if own.isEmpty then general.has 'b' else firstLetters.contains 'b'
    skipsLast := if own.isEmpty then general.has 'b' else lastLetters.contains 'b' }

end SortKey

end LineShell.Userland
