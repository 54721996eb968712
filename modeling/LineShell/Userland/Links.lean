import LineShell.Userland.Copies
/-!
# Links

`ln` and `link` make links, `readlink` and `realpath` follow them. `canonical?` finds the path
without links, dots and double slashes that leads to the same place.
-/

namespace LineShell.Userland

/-- How `ln` makes links. -/
structure Linking where
  symbolic : Bool
  force : Bool
  /-- Whether a link as source is followed. -/
  follows : Bool
  verbose : Bool

/-- Enters a further name for a node. -/
def addName (t : FileTree) (start : Inode) (follows : Bool) (source path : Bytes) :
    Except Errno FileTree := do
  let i ← t.find follows start source
  match ← t.walk false start path with
  | .occupied .. => throw .alreadyExists
  | .vacant directory entry =>
    if t.isDirectory i then throw .notPermitted
    t.admits directory
    return t.link directory entry i

/-- Links one source to a path. -/
def linkTo (name : Bytes) (l : Linking) (source path : Bytes) : Run Bool := do
  let made := fun (t : FileTree) (start : Inode) =>
    if l.symbolic then
      if source.isEmpty then throw .noEntry
      else do
        match ← t.walk false start path with
        | .occupied .. => throw Errno.alreadyExists
        | .vacant directory entry => return (← t.create directory entry (.link source)).1
    else addName t start l.follows source path
  let refused := fun (e : Errno) => do
    complainOf name (bytesOf "failed to create " ++
      (if l.symbolic then bytesOf "symbolic" else bytesOf "hard") ++ bytesOf " link " ++
      Quoting.always path ++
      (if e = .alreadyExists || e = .accessDenied then []
        else (if l.symbolic then bytesOf " -> " else bytesOf " => ") ++ Quoting.always source)) e
    return false
  let found ← if l.symbolic then pure none else pure (some (← nodeAt l.follows source))
  match found with
  | some (.error e) =>
    complainOf name (bytesOf "failed to access " ++ Quoting.always source) e
    return false
  | _ =>
    if found.any (fun f => f.toOption.any (fun f => f.2.isDirectory)) then
      complain name (Quoting.whereNeeded source ++ bytesOf ": hard link not allowed for directory")
      return false
    else
      let there ← nodeAt false path
      let same := match found, there with
        | some (.ok (i, _)), .ok (j, _) => i = j
        | _, _ => false
      if l.force && same then complainOfSame name source path
      else
        if l.force && there.toOption.any (fun f => !f.2.isDirectory) then
          let _ ← change (fun t start => t.removeFile start path)
        match ← change made with
        | .ok () =>
          if l.verbose then
            tellMove [] path (if l.symbolic then bytesOf " -> " else bytesOf " => ") source
          return true
        | .error e => refused e

/-- Makes links. -/
def ln : Program := fun name args => do
  let (options, operands) ← Options.get
    ⟨['s', 'f', 'n', 'v', 'T', 'P', 'L'], ['t'],
      [("symbolic", 's'), ("force", 'f'), ("verbose", 'v'), ("no-dereference", 'n'),
        ("target-directory", 't'), ("no-target-directory", 'T'), ("physical", 'P'),
        ("logical", 'L')]⟩ name args 1
  let has := given options
  let l : Linking := ⟨has 's', has 'f', has 'L', has 'v'⟩
  match operands, valueOf options 't' with
  | [], _ => misuse name (bytesOf "missing file operand") 1
  | [one], none =>
    if has 'T' then
      misuse name (bytesOf "missing destination file operand after " ++ Quoting.always one) 1
    else return codeOf (← linkTo name l one (Path.join Path.dot (Path.base one)))
  | _, directory =>
    toDestination name ⟨directory, has 'T', has 'n'⟩ operands fun d source =>
      linkTo name l source (d.pathFor source)

/-- Makes one further name for a file. -/
def link : Program := fun name args => do
  let (_, operands) ← Options.get ⟨[], [], []⟩ name args 1
  match operands with
  | [] => misuse name (bytesOf "missing operand") 1
  | [one] => misuse name (bytesOf "missing operand after " ++ Quoting.word one) 1
  | [source, path] =>
    match ← change (fun t start => addName t start false source path) with
    | .ok () => return 0
    | .error e =>
      complainOf name (bytesOf "cannot create link " ++ Quoting.always path ++ bytesOf " to " ++
        Quoting.always source) e
      return 1
  | _ :: _ :: extra :: _ => misuse name (bytesOf "extra operand " ++ Quoting.word extra) 1

/-! ### Following links -/

/-- Which names of a path need not lead anywhere. -/
inductive Missing where
  | none
  | last
  | any
  deriving DecidableEq

/-- Follows the names of a path from a canonical one, at most `fuel` of them. -/
def canonicalFrom (t : FileTree) (missing : Missing) :
    Nat → Bytes → List Bytes → Except Errno Bytes
  | 0, _, _ => .error .tooManyLinks
  | _, known, [] => .ok known
  | fuel + 1, known, name :: rest =>
    if name = Path.dot then canonicalFrom t missing fuel known rest
    else if name = Path.dots then
      canonicalFrom t missing fuel ((Path.parent? known).getD [Path.slash]) rest
    else
      let path := Path.join known name
      match t.find false FileTree.root path with
      | .ok i =>
        match t.node? i with
        | some ⟨.link target, _⟩ =>
          canonicalFrom t missing fuel (if Path.isAbsolute target then [Path.slash] else known)
            (Path.names target ++ rest)
        | some n =>
          if rest.isEmpty || n.isDirectory || missing = .any then
            canonicalFrom t missing fuel path rest
          else .error .notDirectory
        | none => .error .noEntry
      | .error e =>
        if missing = .any || (missing = .last && rest.isEmpty && e = .noEntry) then
          canonicalFrom t missing fuel path rest
        else .error e

/-- The path without links and dots that leads where a path leads. -/
def canonical? (missing : Missing) (path : Bytes) : Run (Except Errno Bytes) := do
  let (t, start) ← here
  if path.isEmpty then return .error .noEntry
  else
    let base := if Path.isAbsolute path then some [Path.slash] else t.pathOf? start
    match base with
    | none => return .error .noEntry
    | some base =>
      let fuel := 41 * (path.length + 4096)
      match canonicalFrom t missing (min fuel 20000) base (Path.names path) with
      | .error e => return .error e
      | .ok found =>
        -- A slash at the end asks for a directory.
        if Path.endsInSlash path && missing = .none &&
            !((t.find true FileTree.root found).toOption.any t.isDirectory) then
          return .error .notDirectory
        else return .ok found

/-- Shows where links lead. -/
def readlink : Program := fun name args => do
  let (options, operands) ← Options.get
    ⟨['n', 'q', 's', 'v', 'z', 'f', 'e', 'm'], [],
      [("canonicalize", 'f'), ("canonicalize-existing", 'e'), ("canonicalize-missing", 'm'),
        ("no-newline", 'n'), ("quiet", 'q'), ("silent", 's'), ("verbose", 'v'), ("zero", 'z')]⟩
    name args 1
  let has := given options
  if operands.isEmpty then misuse name (bytesOf "missing operand") 1
  else
    if has 'n' && 1 < operands.length then
      complain name (bytesOf "ignoring --no-newline with multiple arguments")
    let ending : Bytes := if has 'n' && operands.length ≤ 1 then []
      else if has 'z' then [0] else [10]
    let missing? := if has 'e' then some Missing.none
      else if has 'm' then some Missing.any
      else if has 'f' then some Missing.last
      else none
    let ok ← forAll (fun operand => do
      let found ← match missing? with
        | some missing => canonical? missing operand
        | none => do
          match ← nodeAt false operand with
          | .ok (_, ⟨.link target, _⟩) => pure (.ok target)
          | .ok _ => pure (.error .invalidArgument)
          | .error e => pure (.error e)
      match found with
      | .ok target => out (target ++ ending); return true
      | .error e =>
        if has 'v' then complainOf name (Quoting.whereNeeded operand) e
        return false) operands
    return codeOf ok

/-- Shows canonical paths. -/
def realpath : Program := fun name args => do
  let (options, operands) ← Options.get
    ⟨['e', 'm', 'q', 'z', 'L', 'P', 's'], [],
      [("canonicalize-existing", 'e'), ("canonicalize-missing", 'm'), ("quiet", 'q'),
        ("strip", 's'), ("no-symlinks", 's'), ("zero", 'z'), ("logical", 'L'),
        ("physical", 'P')]⟩ name args 1
  let has := given options
  if operands.isEmpty then misuse name (bytesOf "missing operand") 1
  else
    let missing := if has 'e' then Missing.none else if has 'm' then .any else .last
    let ok ← forAll (fun operand => do
      match ← canonical? missing operand with
      | .ok path => out (path ++ [if has 'z' then 0 else 10]); return true
      | .error e =>
        if !has 'q' then complainOf name (Quoting.whereNeeded operand) e
        return false) operands
    return codeOf ok

end LineShell.Userland
