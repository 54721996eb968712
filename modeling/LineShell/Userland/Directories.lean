import LineShell.Userland.Modes
/-!
# Making and removing directories

`mkdir` and `rmdir`. With parents a directory is made along with those above it; a directory on the
way must let through, whether it was made or was there.
-/

namespace LineShell.Userland

/-- What `mkdir` was asked for besides names. -/
structure Making where
  parents : Bool
  verbose : Bool
  mode : Option Mode

/-- Makes a directory with some permissions, and says so if asked to. -/
def Making.make (m : Making) (name path : Bytes) (bits : Nat) : Run (Except Errno Unit) := do
  let made ← change (fun t start => t.makeDirectory start bits path)
  if m.verbose && made.toOption.isSome then
    outLines [name ++ bytesOf ": created directory " ++ Quoting.always path]
  return made

/-- The path and its parents, from the longest on. -/
def upwards : Nat → Bytes → List Bytes
  | 0, _ => []
  | fuel + 1, path =>
    match Path.parent? path with
    | some parent => if parent.isEmpty then [path] else path :: upwards fuel parent
    | none => [path]

/-- Makes the directories above, from the shortest on. Returns the path that stands in the way. -/
def makeAbove (name : Bytes) (m : Making) : List Bytes → Run (Option (Bytes × Errno))
  | [] => return none
  | path :: rest => do
    let mask := (← (get : Call Context)).self.mask
    -- Whoever makes a directory on the way may write to it and walk through it.
    let made ← m.make name path (Permissions.masked 0o777 (Permissions.masked mask 0o300))
    let (t, start) ← here
    match made, t.enterDirectory start path with
    | _, .ok _ => makeAbove name m rest
    | .error e, .error .noEntry => return some (path, e)
    | _, .error e => return some (path, e)

/-- Makes one operand. -/
def makeOne (name : Bytes) (m : Making) (operand : Bytes) : Run Bool := do
  let refuse := fun (path : Bytes) (e : Errno) => do
    complainOf name (bytesOf "cannot create directory " ++ Quoting.always path) e
    return false
  let above := if m.parents then ((upwards operand.length operand).drop 1).reverse else []
  match ← makeAbove name m above with
  | some (path, e) => refuse path e
  | none =>
    let mask := (← (get : Call Context)).self.mask
    let standard := Permissions.masked 0o777 mask
    let bits := (m.mode.map (fun mode => mode.apply true mask standard)).getD standard
    match ← m.make name operand bits with
    | .ok () => return true
    | .error e =>
      if m.parents && e = .alreadyExists && (← isDirectoryAt operand) then return true
      else refuse operand e

/-- Makes directories. -/
def mkdir : Program := fun name args => do
  let (options, operands) ← Options.get
    ⟨['p', 'v'], ['m'], [("parents", 'p'), ("mode", 'm'), ("verbose", 'v')]⟩ name args 1
  if operands.isEmpty then misuse name (bytesOf "missing operand") 1
  else
    let mode ← match valueOf options 'm' with
      | none => pure none
      | some written =>
        match Mode.parse? written with
        | some mode => pure (some mode)
        | none => do
          complain name (bytesOf "invalid mode " ++ Quoting.always written)
          exit 1
    return codeOf (← forAll (makeOne name ⟨given options 'p', given options 'v', mode⟩) operands)

/-- Removes one empty directory, and with `parents` those above it. -/
def removeEmpty (name : Bytes) (verbose : Bool) : List Bytes → Run Bool
  | [] => pure true
  | path :: rest => do
    if verbose then
      outLines [name ++ bytesOf ": removing directory, " ++ Quoting.always path]
    match ← change (fun t start => t.removeDirectory start path) with
    | .ok () => removeEmpty name verbose rest
    | .error e =>
      complainOf name (bytesOf "failed to remove " ++ Quoting.always path) e
      return false

/-- Removes empty directories. -/
def rmdir : Program := fun name args => do
  let (options, operands) ← Options.get
    ⟨['p', 'v'], [], [("parents", 'p'), ("verbose", 'v')]⟩ name args 1
  if operands.isEmpty then misuse name (bytesOf "missing operand") 1
  else
    let ok ← forAll (fun operand => removeEmpty name (given options 'v')
      (if given options 'p' then upwards operand.length operand else [operand])) operands
    return codeOf ok

end LineShell.Userland
