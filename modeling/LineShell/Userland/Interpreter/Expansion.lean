import LineShell.Userland.Arithmetic
import LineShell.Userland.Interpreter.State
import LineShell.Userland.Pattern
/-!
# Expansion

What becomes of a word before its command runs. A word is first spread into *glyphs*, bytes that
remember where they come from. Then either `fieldsOf` parts the glyphs into fields, or `joined` puts
all of them into one.

Substitutions run commands; how they do is a parameter of the functions here.
-/

namespace LineShell.Userland.Interpreter

open LineShell.Userland.Script

/-- What a word is spread into. -/
inductive Glyph where
  /-- A byte written outside of quotes. -/
  | written (b : UInt8)
  | quoted (b : UInt8)
  /-- A byte of a value outside of quotes, which may part fields. -/
  | found (b : UInt8)
  /-- Quotes, which make a field even if it is empty. -/
  | present
  /-- Between two positional parameters; in one field the bytes stand for it. -/
  | gap (joint : Bytes)
  deriving DecidableEq, Repr

/-- How a substitution gets what its commands write. -/
abbrev Substitute := Command → Interp Bytes

/-! ### Fields -/

/-- Glyphs on their way to fields, the last first. -/
structure Parting where
  fields : List (List MarkedByte)
  /-- The field that is being put together. -/
  current : Option (List MarkedByte)
  /-- Whether blanks have ended a field and nothing has come behind them. -/
  behindBlank : Bool

namespace Parting

/-- Puts a byte into the present field. -/
def add (p : Parting) (b : UInt8) (isQuoted : Bool) : Parting :=
  ⟨p.fields, some ((b, isQuoted) :: p.current.getD []), false⟩

/-- Ends the present field if there is one. -/
def close (p : Parting) (byBlank : Bool) : Parting :=
  match p.current with
  | some field => ⟨field.reverse :: p.fields, none, byBlank⟩
  | none => p

/-- Takes one more glyph. Blanks among the separators end a field; another separator ends one even
if it is empty, unless blanks before it have done so. -/
def step (separators : Bytes) (p : Parting) : Glyph → Parting
  | .written b => p.add b false
  | .quoted b => p.add b true
  | .present => { p with current := some (p.current.getD []), behindBlank := false }
  | .gap _ => { p.close false with behindBlank := false }
  | .found b =>
    if !separators.contains b then p.add b false
    else if standardSeparators.contains b then p.close true
    else match p.current, p.behindBlank with
      | some _, _ => p.close false
      | none, true => { p with behindBlank := false }
      | none, false => { p with fields := [] :: p.fields }

end Parting

/-- The fields that glyphs fall into. -/
def fieldsOf (separators : Bytes) (glyphs : List Glyph) : List (List MarkedByte) :=
  ((glyphs.foldl (Parting.step separators) ⟨[], none, false⟩).close false).fields.reverse

/-- All glyphs in one field. -/
def markedBytes (glyphs : List Glyph) : List MarkedByte :=
  glyphs.flatMap (fun g => match g with
    | .written b | .found b => [(b, false)]
    | .quoted b => [(b, true)]
    | .present => []
    | .gap joint => joint.map (fun b => (b, true)))

/-- The bytes of all glyphs. -/
def joined (glyphs : List Glyph) : Bytes := unmarked (markedBytes glyphs)

/-- The glyphs of a value. -/
def glyphsOf (isQuoted : Bool) (value : Bytes) : List Glyph :=
  if isQuoted then .present :: value.map .quoted else value.map .found

/-! ### Parameters -/

/-- The value of a parameter that stands for one value. -/
def parameter? (name : Bytes) : Interp (Option Bytes) := do
  let s ← get
  match String.ofList (Bytes.text name) with
  | "?" => return some (decimal s.last)
  | "$" => return some (decimal s.pid)
  | "#" => return some (decimal s.positional.length)
  | "0" => return some s.scriptName
  | "PPID" => return some (decimal s.parent)
  | "!" => return s.jobs.getLast?.map (fun job => decimal job.1)
  | "-" => return some s.flags.letters
  | t =>
    match Text.toNat? t.toList with
    | some n => return s.positional[n - 1]?
    | none => value? name

/-- Whether a name stands for all positional parameters. -/
def meansAll (name : Bytes) : Bool := name = bytesOf "@" || name = bytesOf "*"

/-- The glyphs of all positional parameters. -/
def allPositional (name : Bytes) (isQuoted : Bool) : Interp (List Glyph) := do
  let positional := (← get).positional
  let first := (← separators).take 1
  if name = bytesOf "*" && isQuoted then
    return glyphsOf true (Bytes.join first positional)
  else
    let parts := positional.map (glyphsOf isQuoted)
    return (parts.intersperse [.gap first]).flatten

/-- Refuses a parameter that has no value. -/
def refuseMissing {α : Type} (name : Bytes) : Interp α :=
  refuse (name ++ bytesOf ": parameter not set")

/-- The directory that a tilde at the beginning of a word stands for, and the bytes behind it. -/
def tilde? (bytes : Bytes) (isWhole : Bool) : Interp (Option (Bytes × Bytes)) := do
  match bytes with
  | 0x7e :: rest =>
    if rest.head? = some Path.slash || (rest.isEmpty && isWhole) then
      return (← value? (bytesOf "HOME")).map (fun home => (home, rest))
    else return none
  | _ => return none

/-- The integer in a variable; a missing one is zero. -/
def integerVariable (name : Bytes) : Interp Int := do
  match ← parameter? name with
  | none =>
    if (← get).flags.needsValues then refuseMissing name else return 0
  | some value =>
    if value.all isSpace then return 0
    else match wordInteger? value with
      | some n => return n
      | none => refuse (bytesOf "Illegal number: " ++ value)

/-- The value of an expression as it is written. -/
def evaluate (written : Bytes) : Interp Int := do
  let refuseWith := fun (f : FormulaFault) =>
    refuse (bytesOf "arithmetic expression: " ++ f.message ++ bytesOf ": \"" ++ written ++
      bytesOf "\"")
  match Formula.parse written with
  | .error f => refuseWith f
  | .ok e =>
    match ← (e.value integerVariable
        (fun name n => assign name (integerText n).bytes)).run with
    | .ok n => return n
    | .error f => refuseWith f

mutual

/-- The glyphs of a word. With `loose` what is written outside of quotes may part fields. -/
def spread (substitute : Substitute) (loose : Bool) : Word → Interp (List Glyph)
  | [] => return []
  | piece :: rest => do
    let first ← spreadPiece substitute loose piece
    return first ++ (← spread substitute loose rest)

/-- The glyphs of a piece. -/
def spreadPiece (substitute : Substitute) (loose : Bool) : Script.Piece → Interp (List Glyph)
  | .literal bytes true => return glyphsOf true bytes
  | .literal bytes false => return bytes.map (if loose then .found else .written)
  | .parameter name use isQuoted => spreadUse substitute name isQuoted use
  | .substitution body isQuoted => do
    let output ← substitute body
    return glyphsOf isQuoted (Bytes.dropEndWhile (· == 10) (output.filter (· != 0)))
  | .arithmetic expression isQuoted => do
    let written := joined (← spread substitute false expression)
    return glyphsOf isQuoted (integerText (← evaluate written)).bytes

/-- The glyphs of a use of a parameter. -/
def spreadUse (substitute : Substitute) (name : Bytes) (isQuoted : Bool) :
    Use → Interp (List Glyph)
  | .wrong => refuse (bytesOf "Bad substitution")
  | .value => do
    if meansAll name then allPositional name isQuoted
    else match ← parameter? name with
      | some v => return glyphsOf isQuoted v
      | none =>
        if (← get).flags.needsValues then refuseMissing name
        else return glyphsOf isQuoted []
  | .length => do
    if meansAll name then return glyphsOf isQuoted (decimal (← get).positional.length)
    else match ← parameter? name with
      | some v => return glyphsOf isQuoted (decimal v.length)
      | none =>
        if (← get).flags.needsValues then refuseMissing name
        else return glyphsOf isQuoted (decimal 0)
  | .fallback kind ifEmpty word => do
    let all := meansAll name
    let present ← if all then do
        let glyphs ← allPositional name isQuoted
        pure (if glyphs.isEmpty then none else some glyphs)
      else pure ((← parameter? name).map (glyphsOf isQuoted))
    let there := present.filter (fun glyphs => !ifEmpty || !(joined glyphs).isEmpty)
    let instead := do
      let glyphs ← spread substitute (!isQuoted) word
      return if isQuoted && glyphs.isEmpty then [.present] else glyphs
    match kind, there with
    | .instead, none => instead
    | .onlyIfThere, some _ => instead
    | .onlyIfThere, none => return glyphsOf isQuoted []
    | .assigned, none => do
      let value := joined (← spread substitute false word)
      if isName name then
        assign name value
        return glyphsOf isQuoted value
      else refuse (name ++ bytesOf ": bad variable name")
    | .refused, none => do
      let reason := joined (← spread substitute false word)
      let reason := if word.isEmpty then
          bytesOf (if ifEmpty then "parameter not set or null" else "parameter not set")
        else reason
      refuse (name ++ bytesOf ": " ++ reason)
    | _, some glyphs => return glyphs
  | .trim atEnd longest pattern => do
    let value ← if meansAll name then do pure (some (joined (← allPositional name true)))
      else parameter? name
    if value.isNone && (← get).flags.needsValues then refuseMissing name
    let glyphs ← spread substitute false pattern
    let trimmed := (Pattern.of (markedBytes glyphs)).trim atEnd longest (value.getD [])
    return glyphsOf isQuoted trimmed

end

/-! ### Words -/

/-- A word whose tilde at the beginning is spread out. -/
def withHome (w : Word) : Interp Word := do
  match w with
  | .literal bytes false :: rest =>
    match ← tilde? bytes rest.isEmpty with
    | some (home, behind) =>
      return .literal home true :: (if behind.isEmpty then [] else [.literal behind false]) ++ rest
    | none => return w
  | _ => return w

/-- The fields of a word. -/
def fieldsOfWord (substitute : Substitute) (w : Word) : Interp (List Bytes) := do
  let glyphs ← spread substitute false (← withHome w)
  let fields := fieldsOf (← separators) glyphs
  if (← get).flags.keepsPatterns then return fields.map unmarked
  else return (← fields.mapM (fun f => (expandPath f : Run _))).flatten

/-- The fields of several words. -/
def fieldsOfWords (substitute : Substitute) : List Word → Interp (List Bytes)
  | [] => return []
  | w :: rest => do
    let first ← fieldsOfWord substitute w
    return first ++ (← fieldsOfWords substitute rest)

/-- A word as one field. -/
def wholeWord (substitute : Substitute) (w : Word) : Interp Bytes := do
  return joined (← spread substitute false (← withHome w))

/-- The pattern that a word writes. -/
def patternOf (substitute : Substitute) (w : Word) : Interp Pattern := do
  return Pattern.of (markedBytes (← spread substitute false (← withHome w)))

/-- The parts of bytes between colons, each with the colon in front of it. -/
def colonParts (bytes : Bytes) : List Bytes :=
  match Bytes.pieces 0x3a bytes with
  | [] => []
  | first :: rest => first :: rest.map (0x3a :: ·)

/-- The value of an assignment: a tilde may stand at its beginning and behind every colon. -/
def assignedWord (substitute : Substitute) (w : Word) : Interp Bytes := do
  match w with
  | [.literal bytes false] =>
    let parts ← (colonParts bytes).mapM (fun part => do
      let colon := part.takeWhile (· == 0x3a)
      match ← tilde? (part.drop colon.length) true with
      | some (home, behind) => return colon ++ home ++ behind
      | none => return part)
    return parts.flatten
  | w => wholeWord substitute w

end LineShell.Userland.Interpreter
