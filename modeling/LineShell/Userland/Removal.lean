import LineShell.Userland.Tree
/-!
# Removing

`rm` and `unlink`. A directory is emptied from the inside out; what cannot be removed is complained
about, and the directories around it stay.
-/

namespace LineShell.Userland

/-- Which ways of removing were asked for. -/
structure Removal where
  recursive : Bool
  force : Bool
  directories : Bool
  verbose : Bool

/-- Whether a path ends in one of the names that cannot be removed. -/
def endsInDots (path : Bytes) : Bool :=
  let last := (Path.names path).getLast?
  last == some Path.dot || last == some Path.dots

/-- Complains about a path that cannot be removed. -/
def complainOfRemoval (name path : Bytes) (e : Errno) : Run Bool := do
  complainOf name (bytesOf "cannot remove " ++ Quoting.always path) e
  return false

/-- Removes a name, and says so if asked to. -/
def removeName (name : Bytes) (asked : Removal) (path : Bytes) (directory : Bool) : Run Bool := do
  match ← change (fun t start =>
      if directory then t.removeDirectory start path else t.removeFile start path) with
  | .ok () =>
    if asked.verbose then
      outLines [bytesOf (if directory then "removed directory " else "removed ") ++
        Quoting.always path]
    return true
  | .error e => complainOfRemoval name path e

/-- Removes what a path leads to, and what is in it before; at most `fuel` levels deep. -/
def removeAll (name : Bytes) (asked : Removal) : Nat → Bytes → Run Bool
  | 0, _ => return false
  | fuel + 1, path => do
    match ← nodeAt false path with
    | .error e => complainOfRemoval name path e
    | .ok (i, n) =>
      if !n.isDirectory then removeName name asked path false
      else
        let (t, _) ← here
        let entries := t.entries i
        if !n.permissions.allows .read then
          if entries.isEmpty then removeName name asked path true
          else complainOfRemoval name path .accessDenied
        else
          let ok ← forAll (fun (e : Bytes × Inode) => removeAll name asked fuel
            (Path.join path e.1)) entries
          if ok then removeName name asked path true else return false

/-- Removes one operand. -/
def removeOne (name : Bytes) (asked : Removal) (operand : Bytes) : Run Bool := do
  match ← nodeAt false operand with
  | .error e =>
    if asked.force && (e = .noEntry || e = .notDirectory) then return true
    else complainOfRemoval name operand e
  | .ok (_, n) =>
    if !n.isDirectory then removeName name asked operand false
    else if !asked.recursive && !asked.directories then
      complainOfRemoval name operand .isDirectory
    else if endsInDots operand then
      complain name (bytesOf "refusing to remove '.' or '..' directory: skipping " ++
        Quoting.always operand)
      return false
    else if asked.recursive && (Path.names operand).isEmpty then
      complain name (bytesOf "it is dangerous to operate recursively on " ++
        Quoting.always operand)
      complain name (bytesOf "use --no-preserve-root to override this failsafe")
      return false
    else if asked.recursive then
      let (t, _) ← here
      removeAll name asked (t.nodes.length + 1) operand
    else removeName name asked operand true

/-- Removes files and, when asked to, directories. -/
def rm : Program := fun name args => do
  let (options, operands) ← Options.get
    ⟨['r', 'R', 'f', 'd', 'v', 'i', 'I'], [],
      [("recursive", 'r'), ("force", 'f'), ("dir", 'd'), ("verbose", 'v')]⟩ name args 1
  let has := given options
  if operands.isEmpty then
    if has 'f' then return 0 else misuse name (bytesOf "missing operand") 1
  else
    let asked : Removal := ⟨has 'r' || has 'R', has 'f', has 'd', has 'v'⟩
    return codeOf (← forAll (removeOne name asked) operands)

/-- Removes one name. -/
def unlink : Program := fun name args => do
  let (_, operands) ← Options.get ⟨[], [], []⟩ name args 1
  match operands with
  | [] => misuse name (bytesOf "missing operand") 1
  | [path] =>
    match ← change (fun t start => t.removeFile start path) with
    | .ok () => return 0
    | .error e =>
      complainOf name (bytesOf "cannot unlink " ++ Quoting.always path) e
      return 1
  | _ :: extra :: _ => misuse name (bytesOf "extra operand " ++ Quoting.word extra) 1

end LineShell.Userland
