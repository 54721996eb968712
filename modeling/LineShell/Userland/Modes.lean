import LineShell.Text.Blank
import LineShell.Userland.Tree
/-!
# Modes as they are written

A mode is written as an octal number, or as steps with letters: for whom, a sign, and which
permissions. `Mode.parse?` reads it, and `Mode.apply` says what it makes of the twelve permission
bits of a node. Where no one is named the mask of the process spares its bits. The two bits that
change identities stay on a directory unless they are mentioned.
-/

namespace LineShell.Userland

/-- What a step does with its bits. -/
inductive ModeSign where
  | add
  | remove
  | set
  deriving DecidableEq, Repr

/-- Where the bits of a step come from. -/
inductive ModeSource where
  /-- Given bits, and perhaps execution for directories and for what someone can execute. -/
  | bits (value : Nat) (executeIfAny : Bool)
  /-- The three bits of the owner, the group or the others. -/
  | copied (unit : Nat)
  deriving DecidableEq, Repr

/-- One step of a mode. -/
structure ModeStep where
  /-- The bits of those who are named; none when no one is. -/
  affected : Nat
  sign : ModeSign
  source : ModeSource
  /-- The bits that are written. -/
  mentioned : Nat
  deriving DecidableEq, Repr

/-- A mode as it is written. -/
abbrev Mode := List ModeStep

namespace Mode

/-- All bits. -/
def allBits : Nat := 0o7777

/-- The bits of the people named by letters. -/
def whoBits (letters : Text) : Nat :=
  letters.foldl (fun bits c => bits ||| (match c with
    | 'u' => 0o4700
    | 'g' => 0o2070
    | 'o' => 0o1007
    | _ => allBits)) 0

/-- Whether a character is the sign of a step. -/
def sign? : Char → Option ModeSign
  | '+' => some .add
  | '-' => some .remove
  | '=' => some .set
  | _ => none

/-- The bits of letters, and whether a capital X is among them. -/
def letterBits? (letters : Text) : Option (Nat × Bool) :=
  letters.foldlM (fun (r : Nat × Bool) c => match c with
    | 'r' => some (r.1 ||| 0o444, r.2)
    | 'w' => some (r.1 ||| 0o222, r.2)
    | 'x' => some (r.1 ||| 0o111, r.2)
    | 's' => some (r.1 ||| 0o6000, r.2)
    | 't' => some (r.1 ||| 0o1000, r.2)
    | 'X' => some (r.1, true)
    | _ => none) (0, false)

/-- The number that octal digits write, if it is one of bits. -/
def octal? (t : Text) : Option Nat :=
  if t.isEmpty || !t.all (fun c => '0' ≤ c && c ≤ '7') then none
  else
    let bits := t.foldl (fun n c => 8 * n + (c.toNat - 48)) 0
    if bits ≤ allBits then some bits else none

/-- The step of a sign and of what is written behind it. -/
def step? (affected : Nat) (sign : ModeSign) (written : Text) : Option ModeStep :=
  let mentioned := fun (value : Nat) => if affected = 0 then value else affected &&& value
  match written with
  | ['u'] => some ⟨affected, sign, .copied 64, mentioned 0o700⟩
  | ['g'] => some ⟨affected, sign, .copied 8, mentioned 0o070⟩
  | ['o'] => some ⟨affected, sign, .copied 1, mentioned 0o007⟩
  | _ =>
    match octal? written with
    | some bits =>
      if affected = 0 then some ⟨allBits, sign, .bits bits false, allBits⟩ else none
    | none =>
      (letterBits? written).map (fun r => ⟨affected, sign, .bits r.1 r.2, mentioned r.1⟩)

/-- The steps of one part of a mode; nothing if it is none. -/
def stepsOf? (affected : Nat) : Nat → Text → Option Mode
  | 0, _ => none
  | fuel + 1, t =>
    match t with
    | [] => some []
    | c :: rest => do
      let sign ← sign? c
      let written := rest.takeWhile (fun c => (sign? c).isNone)
      let step ← step? affected sign written
      let more ← stepsOf? affected fuel (rest.drop written.length)
      return step :: more

/-- Reads a mode. -/
def parse? (written : Bytes) : Option Mode :=
  let t := Bytes.text written
  match octal? t with
  | some bits =>
    -- A short number mentions only the special bits that it sets.
    let mentioned := if t.length < 5 then bits ||| 0o777 else allBits
    some [⟨allBits, .set, .bits bits false, mentioned⟩]
  | none => do
    let parts ← (Text.pieces (· == ',') t).mapM (fun part =>
      let who := part.takeWhile ['u', 'g', 'o', 'a'].contains
      let signed := part.drop who.length
      if signed.isEmpty then none else stepsOf? (whoBits who) (signed.length + 1) signed)
    return parts.flatten

/-- What one step makes of the bits of a node. -/
def applyStep (isDirectory : Bool) (mask : Nat) (bits : Nat) (s : ModeStep) : Nat :=
  let omitted := if isDirectory then Permissions.masked 0o6000 s.mentioned else 0
  let wanted := match s.source with
    | .bits value executeIfAny =>
      value ||| (if executeIfAny && (isDirectory || bits &&& 0o111 != 0) then 0o111 else 0)
    | .copied unit => bits / unit % 8 * 0o111
  let limited := if s.affected = 0 then Permissions.masked wanted mask else wanted &&& s.affected
  let value := Permissions.masked limited omitted
  match s.sign with
  | .add => bits ||| value
  | .remove => Permissions.masked bits value
  | .set =>
    let kept := (if s.affected = 0 then 0 else Permissions.masked allBits s.affected) ||| omitted
    (bits &&& kept) ||| value

/-- What a mode makes of the bits of a node. -/
def apply (m : Mode) (isDirectory : Bool) (mask bits : Nat) : Nat :=
  m.foldl (applyStep isDirectory mask) bits

end Mode

/-- Bits as an octal number of four digits. -/
def octalText (bits : Nat) : Bytes :=
  let digits := Nat.toDigits 8 bits
  Text.bytes (List.replicate (4 - digits.length) '0' ++ digits)

end LineShell.Userland
