import LineShell.Userland.Format
/-!
# Small programs about words

`true`, `false`, `pwd`, `printenv`, `sleep`, `seq`, `yes`, `basename` and `dirname`.
-/

namespace LineShell.Userland

/-- Succeeds. -/
def succeed : Program := fun _ _ => return 0

/-- Fails. -/
def fail : Program := fun _ _ => return 1

/-- Shows the working directory. -/
def pwd : Program := fun name args => do
  let (_, operands) ← Options.get
    ⟨['L', 'P'], [], [("logical", 'L'), ("physical", 'P')]⟩ name args 1
  if !operands.isEmpty then complain name (bytesOf "ignoring non-option arguments")
  match ← (Call.workingDirectory : Call _) with
  | .ok path => out (path ++ [10]); return 0
  | .error _ =>
    complain name (bytesOf "couldn't find directory entry in '..' with matching i-node")
    return 1

/-- Shows variables: those named, or all. -/
def printenv : Program := fun name args => do
  let (_, operands) ← Options.getLeading ⟨['0'], [], [("null", '0')]⟩ name args 2
  let env := (← (get : Call Context)).self.environment
  if operands.isEmpty then
    outLines (env.map (fun e => e.1.bytes ++ [byte '='] ++ e.2))
    return 0
  else
    let ok ← forAll (fun operand => do
      match Table.get? (Bytes.text operand) env with
      | some value => outLines [value]; return true
      | none => return false) operands
    return codeOf ok

/-- Whether a word is a time: digits with an optional fraction and unit. -/
def isTime (word : Bytes) : Bool :=
  let t := Bytes.text word
  let t := match t.getLast? with
    | some c => if ['s', 'm', 'h', 'd'].contains c then t.dropLast else t
    | none => t
  !t.isEmpty && t.any Char.isDigit && t.all (fun c => c.isDigit || c == '.') &&
    (t.filter (· == '.')).length ≤ 1

/-- Lets time pass. -/
def sleep : Program := fun name args => do
  if args.isEmpty then misuse name (bytesOf "missing operand") 1
  else
    let wrong := args.filter (fun a => !isTime a)
    if wrong.isEmpty then return 0
    else
      wrong.forM (fun w => complain name (bytesOf "invalid time interval " ++ Quoting.word w))
      pointToHelp name
      exit 1

/-- The numbers from `first` on, `count` of them, with a step. -/
def progression (first step : Int) (count : Nat) : List Int :=
  (List.range count).map (fun (n : Nat) => first + step * (n : Int))

/-- How many steps lead from the first number to the last. -/
def stepsBetween (first step last : Int) : Nat :=
  if step = 0 then 0
  else if 0 < step then (if last < first then 0 else ((last - first) / step).toNat + 1)
  else (if first < last then 0 else ((first - last) / (-step)).toNat + 1)

/-- Splits off the options of `seq`; a negative number is no option. -/
def seqOptions : List Bytes → List OptionGiven × List Bytes
  | [] => ([], [])
  | word :: rest =>
    if (integer? word).isSome then ([], word :: rest)
    else if word = bytesOf "-w" then
      let r := seqOptions rest
      (('w', []) :: r.1, r.2)
    else if word = bytesOf "-s" then
      match rest with
      | separator :: rest =>
        let r := seqOptions rest
        (('s', separator) :: r.1, r.2)
      | [] => ([], [word])
    else ([], word :: rest)

/-- Writes the numbers of a progression. -/
def seq : Program := fun name args => do
  let (options, operands) := seqOptions args
  match operands with
  | [] => misuse name (bytesOf "missing operand") 1
  | _ :: _ :: _ :: extra :: _ => misuse name (bytesOf "extra operand " ++ Quoting.word extra) 1
  | _ =>
    let numbers ← operands.mapM (fun w => match integer? w with
      | some n => pure n
      | none => misuse name (bytesOf "invalid floating point argument: " ++ Quoting.word w) 1)
    let (first, step, last) : Int × Int × Int := match numbers with
      | [last] => (1, 1, last)
      | [first, last] => (first, 1, last)
      | first :: step :: last :: _ => (first, step, last)
      | [] => (1, 1, 0)
    if step = 0 then
      misuse name (bytesOf "invalid Zero increment value: " ++
        Quoting.word (operands[1]?.getD [])) 1
    let shown := (progression first step (stepsBetween first step last)).map integerText
    let width := if given options 'w' then shown.foldl (fun n t => max n t.length) 0 else 0
    let shown := shown.map (fun t => inField false true width t.bytes)
    if shown.isEmpty then return 0
    else
      out (Bytes.join ((valueOf options 's').getD [10]) shown ++ [10])
      return 0

/-- Writes one line for ever. -/
def yes : Program := fun _ args => do
  let line := if args.isEmpty then bytesOf "y" else Bytes.join [byte ' '] args
  outStream ⟨[], line ++ [10]⟩
  return 0

/-- The last component of a path, without a suffix that is not all of it. -/
def baseWithout (suffix path : Bytes) : Bytes :=
  let base := Path.base path
  if suffix.isSuffixOf base && suffix != base then base.take (base.length - suffix.length) else base

/-- Shows the last component of a path, or of several. -/
def basename : Program := fun name args => do
  let (options, operands) ← Options.getLeading
    ⟨['a'], ['s'], [("multiple", 'a'), ("suffix", 's')]⟩ name args 1
  let several := given options 'a' || given options 's'
  match several, operands with
  | _, [] => misuse name (bytesOf "missing operand") 1
  | true, paths =>
    outLines (paths.map (baseWithout ((valueOf options 's').getD [])))
    return 0
  | false, [path] => outLines [baseWithout [] path]; return 0
  | false, [path, suffix] => outLines [baseWithout suffix path]; return 0
  | false, _ :: _ :: extra :: _ => misuse name (bytesOf "extra operand " ++ Quoting.word extra) 1

/-- A path without its last component, as it is written. -/
def directoryPart (path : Bytes) : Bytes :=
  let cut := Bytes.dropEndWhile (· != Path.slash) (withoutTrailingSlashes path)
  if cut.isEmpty then Path.dot else withoutTrailingSlashes cut

/-- Shows the path without its last component. -/
def dirname : Program := fun name args => do
  if args.isEmpty then misuse name (bytesOf "missing operand") 1
  else
    outLines (args.map directoryPart)
    return 0

end LineShell.Userland
