import LineShell.Userland.Basic
/-!
# What programs ask of the file tree

Looking nodes up, changing the tree, and going through operands one by one.
-/

namespace LineShell.Userland

/-- The tree and the directory that relative paths start from. -/
def here : Run (FileTree × Inode) := do
  let c ← (get : Call Context)
  return (c.machine.tree, c.self.directory)

/-- Changes the tree. -/
def change (f : FileTree → Inode → Except Errno FileTree) : Run (Except Errno Unit) :=
  (Call.changeTree f : Call _)

/-- The node at a path. -/
def nodeAt (followLast : Bool) (path : Bytes) : Run (Except Errno (Inode × Node)) := do
  let (t, start) ← here
  match t.find followLast start path with
  | .error e => return .error e
  | .ok i =>
    match t.node? i with
    | some n => return .ok (i, n)
    | none => return .error .noEntry

/-- Whether a path leads to a directory. -/
def isDirectoryAt (path : Bytes) : Run Bool := do
  return (← nodeAt true path).toOption.any (fun found => found.2.isDirectory)

/-- Applies an action to the operands in order; returns whether it succeeded for all. -/
def forAll {α : Type} (act : α → Run Bool) : List α → Run Bool
  | [] => pure true
  | operand :: rest => do
    let ok ← act operand
    let others ← forAll act rest
    return ok && others

/-- A path without the slashes at its end; of slashes alone one stays. -/
def withoutTrailingSlashes (path : Bytes) : Bytes :=
  if path.all (· == Path.slash) then path.take 1 else Path.trimmed path

/-- Sets the permission bits of a node, which only its owner may do. -/
def setBits (t : FileTree) (i : Inode) (bits : Nat) : Except Errno FileTree :=
  match t.node? i with
  | none => .error .noEntry
  | some n =>
    if n.permissions.owned then
      .ok (t.setNode i { n with permissions := n.permissions.withBits bits })
    else .error .notPermitted

/-- Enters a new node at a path that leads nowhere. -/
def enter (path : Bytes) (n : Node) : Run (Except Errno Unit) :=
  change fun t start => do
    match ← t.walk false start path with
    | .occupied .. => throw Errno.alreadyExists
    | .vacant directory name => return (← t.create directory name n).1

end LineShell.Userland
