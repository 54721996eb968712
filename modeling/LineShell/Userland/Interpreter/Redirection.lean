import LineShell.Userland.Interpreter.Expansion
/-!
# Redirections

Numbers that are made to lead elsewhere, for one command or for good. What a number led to before
is put back number by number, so that numbers opened for good in between stay.
-/

namespace LineShell.Userland.Interpreter

open LineShell.Userland.Script

/-- Why a file could not be opened. -/
def openFailure (makes : Bool) (target : Bytes) (e : Errno) : Bytes :=
  let reason := if e = .noEntry || e = .notDirectory then
      (if makes then bytesOf "Directory nonexistent" else bytesOf "No such file")
    else e.description.bytes
  (if makes then bytesOf "cannot create " else bytesOf "cannot open ") ++ target ++
    bytesOf ": " ++ reason

/-- How a kind of redirection opens its target. -/
def openModeOf : RedirectKind → OpenMode
  | .append => .appending
  | .input | .duplicateInput => .reading
  | .both => ⟨true, true, true, false, false, false⟩
  | .output | .forced | .duplicateOutput => .truncating

/-- Makes a number lead to where a newly opened one leads. -/
def settle (opened fd : Nat) : Interp Unit := do
  -- The lowest free number may be the wanted one already.
  if opened = fd then return ()
  else
    let _ ← (Call.duplicateTo opened fd : Call (Except Errno Unit))
    (Call.close opened : Call Unit)

/-- Makes a number lead to a file; returns whether that succeeded. -/
def redirectToFile (fd : Nat) (kind : RedirectKind) (target : Bytes) : Interp Bool := do
  let protects := kind = .output && (← get).flags.protectsFiles
  let isFile := (← (nodeAt true target : Run _)).toOption.any (fun found => match found.2.kind with
    | .file _ => true
    | _ => false)
  if protects && isFile then
    say (openFailure true target .alreadyExists)
    return false
  else
    let mode := openModeOf kind
    match ← (Call.openFile target mode : Call (Except Errno Nat)) with
    | .error e =>
      say (openFailure mode.create target e)
      return false
    | .ok opened =>
      settle opened fd
      return true

/-- Makes a number lead to where another one leads, or nowhere. -/
def redirectToNumber (fd : Nat) (target : Bytes) : Interp Bool := do
  match target with
  | [0x2d] =>
    (Call.close fd : Call Unit)
    return true
  | [digit] =>
    if !isDigit digit then refuse (bytesOf "Syntax error: Bad fd number")
    else match ← (Call.duplicateTo (digit.toNat - 48) fd : Call (Except Errno Unit)) with
      | .ok () => return true
      | .error e =>
        say (target ++ bytesOf ": " ++ e.description.bytes)
        return false
  | _ => refuse (bytesOf "Syntax error: Bad fd number")

/-- Makes a number lead to a text. -/
def redirectToText (fd : Nat) (text : Bytes) : Interp Bool := do
  match ← (Call.pipe : Call (Except Errno (Nat × Nat))) with
  | .error _ =>
    say (bytesOf "Pipe call failed")
    return false
  | .ok (readEnd, writeEnd) =>
    let _ ← (Call.write writeEnd text : Call (Except Errno Unit))
    (Call.close writeEnd : Call Unit)
    settle readEnd fd
    return true

/-- Carries out redirections in order; returns whether all succeeded. -/
def redirect (substitute : Substitute) : List Redirection → Interp Bool
  | [] => return true
  | r :: rest => do
    let ok ← match r with
      | .document fd text => do
        redirectToText fd (joined (← spread substitute false text))
      | .target fd kind word => do
        let target ← wholeWord substitute word
        match kind with
        | .duplicateInput | .duplicateOutput => redirectToNumber fd target
        | _ => redirectToFile fd kind target
    if ok then redirect substitute rest else return false

/-- The number that a redirection is about. -/
def numberOf : Redirection → Nat
  | .target fd _ _ | .document fd _ => fd

/-- Makes the numbers of redirections lead to where they led before. -/
def putBackNumbers (before : DescriptorTable) (rs : List Redirection) : Interp Unit := do
  let c ← context
  let descriptors := rs.foldl (fun (t : DescriptorTable) r =>
    match Table.get? (numberOf r) before with
    | some h => Table.put (numberOf r) h t
    | none => Table.remove (numberOf r) t) c.self.descriptors
  setContext { c with self := { c.self with descriptors := descriptors } }

/-- Runs an action with redirections that end with it, however it ends. -/
def withRedirections (substitute : Substitute) (rs : List Redirection) (act : Interp Nat) :
    Interp Nat := do
  if rs.isEmpty then act
  else
    let before := (← context).self.descriptors
    let result ← ((tryCatch (do
      let code ← if ← redirect substitute rs then act else pure 2
      return .ok code) (fun jump => return .error jump)) : Interp (Except Jump Nat))
    putBackNumbers before rs
    match result with
    | .ok code => return code
    | .error jump => throw jump

end LineShell.Userland.Interpreter
