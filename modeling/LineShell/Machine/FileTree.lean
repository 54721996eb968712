import LineShell.Error.Errno
import LineShell.Machine.Path
import LineShell.Machine.Permissions
import LineShell.Machine.Table
/-!
# The file tree

Nodes by number: regular files, directories, links, installed programs and devices, each with its
permissions. Node 0 is the root directory. A directory knows its parent, and whether it is still
reachable: a removed directory stays what a process stands in, but nothing can be made in it.

* `walk` follows a path from a directory, through links as far as `Path.linkLimit` allows and
  through directories as far as they may be walked through. It ends at a node or at a vacant name in
  a directory.
* `pathOf?` is the way back: the absolute path of a directory, by climbing to the root.
* `addNode`, `link`, `unlink` and `setNode` change the tree.
-/

namespace LineShell

/-- The number of a node. -/
abbrev Inode := Nat

/-- What a name without contents of its own leads to. -/
inductive Device where
  /-- Takes everything and holds nothing. -/
  | null
  /-- Takes everything and holds zeros without end. -/
  | zero
  /-- Takes nothing and holds zeros without end. -/
  | full
  /-- What is behind an open number of the process that opens it. -/
  | handle (number : Nat)
  /-- The terminal that controls a process; no process here has one. -/
  | terminal
  deriving DecidableEq, Repr

/-- What a name can stand for. -/
inductive NodeKind where
  | file (content : Bytes)
  | directory (entries : Table Bytes Inode) (parent : Inode) (reachable : Bool)
  | link (target : Bytes)
  | program (name : Text)
  | device (d : Device)
  deriving DecidableEq, Repr, Inhabited

/-- A node of the tree. -/
structure Node where
  kind : NodeKind
  permissions : Permissions
  deriving DecidableEq, Repr, Inhabited

namespace Node

/-- Whether the node is a directory. -/
def isDirectory (n : Node) : Bool :=
  match n.kind with
  | .directory .. => true
  | _ => false

/-- Whether the node is a link. -/
def isLink (n : Node) : Bool :=
  match n.kind with
  | .link _ => true
  | _ => false

/-- A regular file of the user. -/
def file (content : Bytes) (bits : Nat) : Node := ⟨.file content, .own bits⟩

/-- An empty directory of the user. -/
def emptyDirectory (bits : Nat) (parent : Inode) : Node := ⟨.directory [] parent true, .own bits⟩

/-- A link of the user. -/
def link (target : Bytes) : Node := ⟨.link target, .own 0o777⟩

end Node

/-- All nodes, by number. -/
structure FileTree where
  nodes : List Node
  deriving DecidableEq, Repr

/-- Where a walk ends. -/
inductive Place where
  /-- At a node; the entry is the last name that the walk took, if it was an ordinary name. -/
  | occupied (node : Inode) (entry : Option (Inode × Bytes))
  /-- At a name that the directory does not have. -/
  | vacant (directory : Inode) (name : Bytes)
  deriving DecidableEq, Repr

namespace FileTree

/-- The tree with nothing but a root. -/
def empty : FileTree := ⟨[⟨.directory [] 0 true, .ofMachine 0o755⟩]⟩

/-- The root directory. -/
def root : Inode := 0

/-- The node of a number. -/
def node? (t : FileTree) (i : Inode) : Option Node := t.nodes[i]?

/-- Replaces a node. -/
def setNode (t : FileTree) (i : Inode) (n : Node) : FileTree := ⟨t.nodes.set i n⟩

/-- Replaces what a node stands for; its permissions stay. -/
def setKind (t : FileTree) (i : Inode) (kind : NodeKind) : FileTree :=
  ⟨t.nodes.modify i (fun n => { n with kind := kind })⟩

/-- Adds a node under the next number. -/
def addNode (t : FileTree) (n : Node) : FileTree × Inode := (⟨t.nodes ++ [n]⟩, t.nodes.length)

/-- The entries of a directory, none for anything else. -/
def entries (t : FileTree) (i : Inode) : Table Bytes Inode :=
  match t.node? i with
  | some ⟨.directory entries .., _⟩ => entries
  | _ => []

/-- Whether the number belongs to a directory. -/
def isDirectory (t : FileTree) (i : Inode) : Bool := (t.node? i).any Node.isDirectory

/-- Whether the user may do something with a node. -/
def allows (t : FileTree) (i : Inode) (r : Right) : Bool :=
  (t.node? i).any (fun n => n.permissions.allows r)

/-! ### Walking along a path -/

/-- Where a walk without links ends, or the link it meets and what is left to walk behind it. -/
inductive Stop where
  | failed (e : Errno)
  | reached (place : Place)
  | detour (directory : Inode) (target : Bytes) (rest : List Bytes)

/-- Walks down from a node until the end or the next link to follow. -/
def descend (t : FileTree) (followLast : Bool) (at_ : Inode) (entry : Option (Inode × Bytes)) :
    List Bytes → Stop
  | [] => .reached (.occupied at_ entry)
  | name :: rest =>
    match t.node? at_ with
    | some ⟨.directory entries parent _, permissions⟩ =>
      if !permissions.allows .execute then .failed .accessDenied
      else if name = Path.dot then descend t followLast at_ none rest
      else if name = Path.dots then descend t followLast parent none rest
      else if Path.nameLimit < name.length then .failed .nameTooLong
      else match entries.get? name with
        -- Only the last name of a path may be missing.
        | none => if rest.isEmpty then .reached (.vacant at_ name) else .failed .noEntry
        | some i =>
          match t.node? i with
          | some ⟨.link target, _⟩ =>
            -- A link on the way is followed in any case.
            if rest.isEmpty && !followLast then .reached (.occupied i (some (at_, name)))
            else .detour at_ target rest
          | _ => descend t followLast i (some (at_, name)) rest
    | _ => .failed .notDirectory

/-- Walks from a directory, following at most the given number of links. -/
def walkFrom (t : FileTree) (followLast : Bool) : Nat → Inode → List Bytes → Except Errno Place
  | links, start, steps =>
    match descend t followLast start none steps with
    | .failed e => .error e
    | .reached place => .ok place
    | .detour directory target rest =>
      match links with
      | 0 => .error .tooManyLinks
      | links + 1 =>
        walkFrom t followLast links (if Path.isAbsolute target then root else directory)
          (Path.components target ++ rest)
termination_by structural links => links

/-- Walks along a path from a directory. -/
def walk (t : FileTree) (followLast : Bool) (start : Inode) (path : Bytes) : Except Errno Place :=
  if path.isEmpty then .error .noEntry
  else if !Path.isShort path then .error .nameTooLong
  else walkFrom t followLast Path.linkLimit (if Path.isAbsolute path then root else start)
    (Path.components path)

/-- The node at a path. -/
def find (t : FileTree) (followLast : Bool) (start : Inode) (path : Bytes) : Except Errno Inode :=
  match t.walk followLast start path with
  | .error e => .error e
  | .ok (.occupied i _) => .ok i
  | .ok (.vacant ..) => .error .noEntry

/-- The directory at a path. -/
def findDirectory (t : FileTree) (start : Inode) (path : Bytes) : Except Errno Inode :=
  match t.find true start path with
  | .error e => .error e
  | .ok i => if t.isDirectory i then .ok i else .error .notDirectory

/-- The directory at a path, if it may be walked through. -/
def enterDirectory (t : FileTree) (start : Inode) (path : Bytes) : Except Errno Inode :=
  match t.findDirectory start path with
  | .error e => .error e
  | .ok i => if t.allows i .execute then .ok i else .error .accessDenied

/-! ### The path of a directory -/

/-- The name under which a directory holds a node. -/
def nameIn (t : FileTree) (directory i : Inode) : Option Bytes :=
  ((t.entries directory).find? (fun e => e.2 == i)).map Prod.fst

/-- Climbs to the root and collects the names on the way, at most `fuel` of them. -/
def climb (t : FileTree) : Nat → Inode → Bytes → Option Bytes
  | fuel, i, below =>
    if i = root then some (if below.isEmpty then [Path.slash] else below)
    else match fuel with
      | 0 => none
      | fuel + 1 =>
        match t.node? i with
        | some ⟨.directory _ parent true, _⟩ =>
          match t.nameIn parent i with
          | some name => climb t fuel parent (Path.slash :: name ++ below)
          | none => none
        | _ => none
termination_by structural fuel => fuel

/-- The absolute path of a directory; a removed one has none. -/
def pathOf? (t : FileTree) (i : Inode) : Option Bytes := t.climb t.nodes.length i []

/-! ### Changing the tree -/

/-- Enters a node into a directory. -/
def link (t : FileTree) (directory : Inode) (name : Bytes) (i : Inode) : FileTree :=
  match t.node? directory with
  | some ⟨.directory entries parent reachable, _⟩ =>
    t.setKind directory (.directory (entries.put name i) parent reachable)
  | _ => t

/-- Takes a name out of a directory. -/
def unlink (t : FileTree) (directory : Inode) (name : Bytes) : FileTree :=
  match t.node? directory with
  | some ⟨.directory entries parent reachable, _⟩ =>
    t.setKind directory (.directory (entries.remove name) parent reachable)
  | _ => t

/-- Whether a new name can be made in a directory: a removed one takes none, and others only from
those who may change them. -/
def admits (t : FileTree) (directory : Inode) : Except Errno Unit :=
  match t.node? directory with
  | some ⟨.directory _ _ true, permissions⟩ =>
    if permissions.allowsEntries then .ok () else .error .accessDenied
  | _ => .error .noEntry

/-- Whether a name can be taken out of a directory. -/
def releases (t : FileTree) (directory : Inode) : Except Errno Unit :=
  if (t.node? directory).any (fun n => n.permissions.allowsEntries) then .ok ()
  else .error .accessDenied

/-- Makes a node under a vacant name. -/
def create (t : FileTree) (directory : Inode) (name : Bytes) (n : Node) :
    Except Errno (FileTree × Inode) :=
  match t.admits directory with
  | .error e => .error e
  | .ok () =>
    let (t, i) := t.addNode n
    .ok (t.link directory name i, i)

/-- Makes a directory at a path. -/
def makeDirectory (t : FileTree) (start : Inode) (bits : Nat) (path : Bytes) :
    Except Errno FileTree :=
  match t.walk false start (Path.trimmed path) with
  | .error e => .error e
  | .ok (.occupied ..) => .error .alreadyExists
  | .ok (.vacant directory name) =>
    (t.create directory name (.emptyDirectory bits directory)).map Prod.fst

/-- Removes an empty directory. -/
def removeDirectory (t : FileTree) (start : Inode) (path : Bytes) : Except Errno FileTree :=
  match t.walk false start (Path.trimmed path) with
  | .error e => .error e
  | .ok (.vacant ..) => .error .noEntry
  -- The path ends in dots or is the root: no directory holds it under a name of its own.
  | .ok (.occupied i none) =>
    if !t.isDirectory i then .error .notDirectory
    else if (Path.components path).getLast? = some Path.dot then .error .invalidArgument
    else .error .notEmpty
  | .ok (.occupied i (some (directory, name))) =>
    match t.releases directory with
    | .error e => .error e
    | .ok () =>
      match t.node? i with
      | some ⟨.directory entries parent _, _⟩ =>
        if entries.isEmpty then
          .ok ((t.unlink directory name).setKind i (.directory entries parent false))
        else .error .notEmpty
      | _ => .error .notDirectory

/-- Removes a name that is not a directory. -/
def removeFile (t : FileTree) (start : Inode) (path : Bytes) : Except Errno FileTree :=
  match t.walk false start path with
  | .error e => .error e
  | .ok (.vacant ..) => .error .noEntry
  | .ok (.occupied _ none) => .error .isDirectory
  | .ok (.occupied i (some (directory, name))) =>
    match t.releases directory with
    | .error e => .error e
    | .ok () => if t.isDirectory i then .error .isDirectory else .ok (t.unlink directory name)

/-- Makes the directory at a path and the directories on the way, at most `fuel` levels up. -/
def makeDirectories (t : FileTree) (start : Inode) (bits : Nat) :
    Nat → Bytes → Except (Errno × FileTree) FileTree
  | fuel, path =>
    if path.isEmpty then .ok t
    else match t.makeDirectory start bits path with
      | .ok t => .ok t
      | .error e =>
        if e = .noEntry then
          match fuel, Path.parent? path with
          | fuel + 1, some parent =>
            match makeDirectories t start bits fuel parent with
            | .error e => .error e
            | .ok t =>
              match t.makeDirectory start bits path with
              | .ok t => .ok t
              | .error e =>
                -- It is enough that a directory is there.
                match t.findDirectory start path with
                | .ok _ => .ok t
                | .error _ => .error (e, t)
          | _, _ => .error (e, t)
        else match t.findDirectory start path with
          | .ok _ => .ok t
          | .error _ => .error (e, t)
termination_by structural fuel => fuel

end FileTree

end LineShell
