import LineShell.Userland.Tree
/-!
# Copying and moving

`cp` and `mv`. Both take one source and a target, or several sources and a directory
(`Destination`). A copy of a directory holds copies of what was in it; it is never made inside of
itself for ever.
-/

namespace LineShell.Userland

/-! ### Where to -/

/-- Where copies, moves and links go. -/
structure Destination where
  /-- The target, or the directory for all sources. -/
  target : Bytes
  /-- Whether each source keeps its own name in the target. -/
  into : Bool

/-- The path for one source. -/
def Destination.pathFor (d : Destination) (source : Bytes) : Bytes :=
  if d.into then Path.join d.target (Path.base source) else d.target

/-- What the words of a command say about its destination. -/
structure DestinationWords where
  /-- The directory given by an option. -/
  directory : Option Bytes
  /-- Whether the target is taken as a name even if it is a directory. -/
  plain : Bool
  /-- Whether a link to a directory is taken as a name too. -/
  linkIsName : Bool

/-- Splits operands into sources and a destination, and gives each source to `act`. -/
def toDestination (name : Bytes) (words : DestinationWords) (operands : List Bytes)
    (act : Destination → Bytes → Run Bool) : Run Nat := do
  match words.directory, operands with
  | some _, [] => misuse name (bytesOf "missing file operand") 1
  | some directory, _ =>
    match ← nodeAt true directory with
    | .error e =>
      complainOf name (bytesOf "target directory " ++ Quoting.always directory) e
      return 1
    | .ok (_, n) =>
      if n.isDirectory then return codeOf (← forAll (act ⟨directory, true⟩) operands)
      else
        complainOf name (bytesOf "target directory " ++ Quoting.always directory) .notDirectory
        return 1
  | none, [] => misuse name (bytesOf "missing file operand") 1
  | none, [one] =>
    misuse name (bytesOf "missing destination file operand after " ++ Quoting.always one) 1
  | none, _ =>
    let target := operands.getLast?.getD []
    let found ← nodeAt true target
    let isName := words.plain ||
      (words.linkIsName && (← nodeAt false target).toOption.any (fun f => f.2.isLink))
    let into := !isName && found.toOption.any (fun f => f.2.isDirectory)
    if words.plain && 2 < operands.length then
      misuse name (bytesOf "extra operand " ++ Quoting.always (operands[2]?.getD [])) 1
    else if !into && 2 < operands.length then
      complainOf name (bytesOf "target " ++ Quoting.always target)
        (match found with
          | .ok _ => .notDirectory
          | .error e => e)
      return 1
    else return codeOf (← forAll (act ⟨target, into⟩) operands.dropLast)

/-- Says that something went from one path to another. -/
def tellMove (said source arrow target : Bytes) : Run Unit :=
  outLines [said ++ Quoting.always source ++ arrow ++ Quoting.always target]

/-- Complains that two paths lead to the same node. -/
def complainOfSame (name source target : Bytes) : Run Bool := do
  complain name (Quoting.always source ++ bytesOf " and " ++ Quoting.always target ++
    bytesOf " are the same file")
  return false

/-- What is done about a target that is there. -/
inductive Clash where
  | replace
  /-- It is kept, and nothing is said. -/
  | keep
  /-- It is removed if it cannot be written. -/
  | force
  deriving DecidableEq

/-! ### cp -/

/-- How `cp` copies. -/
structure Copying where
  recursive : Bool
  /-- Whether links are followed to what they lead to. -/
  follows : Bool
  clash : Clash
  /-- Whether permissions are copied in spite of the mask. -/
  preserves : Bool
  verbose : Bool
  /-- Links are made in place of copies: symbolic ones or others. -/
  links : Option Bool

/-- What storing contents came to. -/
inductive Stored where
  | done
  | notOpened (e : Errno)
  | notWritten (e : Errno)

/-- Writes contents to a path. -/
def store (path content : Bytes) : Run Stored := do
  match ← (Call.openFile path .truncating : Call _) with
  | .error e => return .notOpened e
  | .ok fd =>
    let r ← if content.isEmpty then pure (.ok ()) else (Call.write fd content : Call _)
    (Call.close fd : Call Unit)
    match r with
    | .ok () => return .done
    | .error e => return .notWritten e

/-- Copies contents to a path that may be there, with the permissions of the source for a new
file. -/
def copyContent (name : Bytes) (c : Copying) (n : Node) (content target : Bytes) : Run Bool := do
  let mask := (← (get : Call Context)).self.mask
  let wanted := n.permissions.bits &&& 0o777
  let bits := Permissions.masked wanted (if c.preserves then 0 else mask)
  let complainOfTarget := fun (e : Errno) => do
    complainOf name (bytesOf "cannot create regular file " ++ Quoting.always target) e
    return false
  let fill := do
    match ← store target content with
    | .done => return true
    | .notOpened e => complainOfTarget e
    | .notWritten e =>
      complainOf name (bytesOf "error writing " ++ Quoting.always target) e
      return false
  let fillNew := do
    match ← enter target (.file content bits) with
    | .ok () => return true
    | .error e => complainOfTarget e
  let there ← nodeAt true target
  match there with
  | .error e =>
    if (← nodeAt false target).toOption.any (fun f => f.2.isLink) && e = .noEntry then
      complain name (bytesOf "not writing through dangling symlink " ++ Quoting.always target)
      return false
    else if Path.endsInSlash target then complainOfTarget .notDirectory
    else fillNew
  | .ok (i, old) =>
    if c.clash = .force && !Call.permits old .truncating then
      match ← change (fun t start => t.removeFile start target) with
      | .ok () => fillNew
      | .error e =>
        complainOf name (bytesOf "cannot remove " ++ Quoting.always target) e
        return false
    else
      let ok ← fill
      if ok && c.preserves then
        let _ ← change (fun t _ => setBits t i wanted)
      return ok

/-- Makes a directory for the copy of another one, unless it is there. Returns whether it was
made. -/
def copyDirectory (name : Bytes) (target : Bytes) : Run (Option Bool) := do
  match ← change (fun t start => t.makeDirectory start 0o700 target) with
  | .ok () => return some true
  | .error e =>
    if e = .alreadyExists then return some false
    else
      complainOf name (bytesOf "cannot create directory " ++ Quoting.always target) e
      return none

/-- The contents of a node as they can be read. -/
def contentOf (path : Bytes) : Run (Except Errno Bytes) := do
  match ← (Call.openFile path .reading : Call _) with
  | .error e => return .error e
  | .ok fd =>
    let r ← (Call.peek fd : Call _)
    (Call.close fd : Call Unit)
    return r.map Stream.bytes

/-- Complains about a target of another kind than its source; `some` if there is nothing left to
do. -/
def clashOf (name : Bytes) (c : Copying) (source target : Bytes) (i : Inode) (n : Node) :
    Run (Option Bool) := do
  match ← nodeAt (!n.isLink && c.links.isNone) target with
  | .error _ => return none
  | .ok (j, other) =>
    if c.clash = .keep then return some true
    else if i = j then return some (← complainOfSame name source target)
    else if n.isDirectory && !other.isDirectory then
      complain name (bytesOf "cannot overwrite non-directory " ++ Quoting.always target ++
        bytesOf " with directory " ++ Quoting.always source)
      return some false
    else if !n.isDirectory && other.isDirectory then
      complain name (bytesOf "cannot overwrite directory " ++ Quoting.always target ++
        bytesOf " with non-directory")
      return some false
    else return none

/-- Makes a link in place of a copy. -/
def copyAsLink (name : Bytes) (c : Copying) (symbolic : Bool) (source target : Bytes)
    (goal : Bytes) : Run Bool := do
  if c.clash = .force then
    let _ ← change (fun t start => t.removeFile start target)
  let made ← if symbolic then enter target (.link goal)
    else change fun t start => do
      let i ← t.find c.follows start source
      match ← t.walk false start target with
      | .occupied .. => throw Errno.alreadyExists
      | .vacant directory entry =>
        t.admits directory
        return t.link directory entry i
  match made with
  | .ok () => return true
  | .error e =>
    complainOf name (bytesOf (if symbolic then "cannot create symbolic link "
      else "cannot create hard link ") ++ Quoting.always target ++
      (if symbolic then [] else bytesOf " to " ++ Quoting.always source)) e
    return false

/-- Copies what a path leads to, directories with all they hold, at most `fuel` levels deep. `top`
holds the two outermost paths, and the directory that was made for the outermost copy. -/
def copyTo (name : Bytes) (c : Copying) : Nat → Option (Bytes × Bytes × Inode) → Bytes → Bytes →
    Run Bool
  | 0, _, _, _ => return false
  | fuel + 1, top, source, target => do
    match ← nodeAt c.follows source with
    | .error e =>
      complainOf name (bytesOf "cannot stat " ++ Quoting.always source) e
      return false
    | .ok (i, n) =>
      if n.isDirectory && !c.recursive then
        complain name (bytesOf "-r not specified; omitting directory " ++ Quoting.always source)
        return false
      else if let some (outerSource, outerTarget, _) := top.filter (fun t => t.2.2 = i) then
        complain name (bytesOf "cannot copy a directory, " ++ Quoting.always outerSource ++
          bytesOf ", into itself, " ++ Quoting.always outerTarget)
        return false
      else if let some done := ← clashOf name c source target i n then return done
      else
        match n.kind, c.links with
        | .directory .., _ =>
          match ← copyDirectory name target with
          | none => return false
          | some made =>
            if made && c.verbose then tellMove [] source (bytesOf " -> ") target
            let (t, start) ← here
            let copy := (t.find true start target).toOption
            let top := top <|> copy.map (fun j => (source, target, j))
            let ok ← if n.permissions.allows .read then
                forAll (fun (e : Bytes × Inode) =>
                  copyTo name c fuel top (Path.join source e.1) (Path.join target e.1))
                  (t.entries i)
              else do
                complainOf name (bytesOf "cannot access " ++ Quoting.always source) .accessDenied
                pure false
            let mask := (← (get : Call Context)).self.mask
            if made || c.preserves then
              let bits := Permissions.masked (n.permissions.bits &&& 0o777)
                (if c.preserves then 0 else mask)
              if let some j := copy then
                let _ ← change (fun t _ => setBits t j bits)
            return ok
        | _, some symbolic =>
          if c.verbose then tellMove [] source (bytesOf " -> ") target
          copyAsLink name c symbolic source target source
        | .link goal, none =>
          if c.verbose then tellMove [] source (bytesOf " -> ") target
          let _ ← change (fun t start => t.removeFile start target)
          copyAsLink name c true source target goal
        | kind, none =>
          let content ← match kind with
            | .file _ => contentOf source
            | _ => pure (.ok [])
          match content with
          | .error e =>
            complainOf name (bytesOf "cannot open " ++ Quoting.always source ++
              bytesOf " for reading") e
            return false
          | .ok content =>
            if c.verbose then tellMove [] source (bytesOf " -> ") target
            copyContent name c n content target

/-- Copies files. -/
def cp : Program := fun name args => do
  let (options, operands) ← Options.get
    ⟨['r', 'R', 'a', 'f', 'p', 'v', 'P', 'd', 'L', 'H', 'n', 'T', 'l', 's', 'u', 'x'], ['t'],
      [("recursive", 'r'), ("archive", 'a'), ("verbose", 'v'), ("force", 'f'), ("no-clobber", 'n'),
        ("target-directory", 't'), ("no-target-directory", 'T'), ("dereference", 'L'),
        ("no-dereference", 'P'), ("link", 'l'), ("symbolic-link", 's'), ("update", 'u')]⟩
    name args 1
  let has := given options
  let recursive := has 'r' || has 'R' || has 'a'
  let c : Copying :=
    { recursive := recursive
      follows := has 'L' || !(recursive || has 'P' || has 'd' || has 'a')
      clash := if has 'n' then .keep else if has 'f' then .force else .replace
      preserves := has 'p' || has 'a'
      verbose := has 'v'
      links := if has 's' then some true else if has 'l' then some false else none }
  if has 'n' then
    complain name (bytesOf "warning: behavior of -n is non-portable and may change in future; " ++
      bytesOf "use --update=none instead")
  toDestination name ⟨valueOf options 't', has 'T', false⟩ operands fun d source => do
    let (t, _) ← here
    copyTo name c (t.nodes.length + 2) none source (d.pathFor source)

/-! ### mv -/

/-- Whether a directory is another one or lies below it. -/
def liesWithin (t : FileTree) : Nat → Inode → Inode → Bool
  | 0, _, _ => false
  | fuel + 1, i, above =>
    i == above || (i != FileTree.root && (match t.node? i with
      | some ⟨.directory _ parent _, _⟩ => liesWithin t fuel parent above
      | _ => false))

/-- Gives a node another name. -/
def rename (t : FileTree) (start : Inode) (source target : Bytes) : Except Errno FileTree := do
  let place ← t.walk false start (Path.trimmed source)
  match place with
  | .occupied i (some (directory, name)) =>
    let isDirectory := t.isDirectory i
    if Path.endsInSlash source && !isDirectory then throw .notDirectory
    let goal ← t.walk false start (Path.trimmed target)
    let (toDirectory, toName) ← match goal with
      | .vacant d n => pure (d, n)
      | .occupied _ (some (d, n)) => pure (d, n)
      | .occupied .. => throw .busy
    if Path.endsInSlash target && !isDirectory then throw .notDirectory
    -- None can move below itself.
    if isDirectory && liesWithin t t.nodes.length toDirectory i then throw .invalidArgument
    t.releases directory
    match goal with
    | .vacant .. => t.admits toDirectory
    | .occupied .. => t.releases toDirectory
    -- The entry for the directory above is written into the directory itself.
    if isDirectory && toDirectory ≠ directory && !t.allows i .write then throw .accessDenied
    let t ← match goal with
      | .vacant .. => pure t
      | .occupied j _ =>
        match t.node? j with
        | some ⟨.directory entries parent _, _⟩ =>
          if !isDirectory then throw .isDirectory
          else if !entries.isEmpty then throw .notEmpty
          else pure (t.setKind j (.directory entries parent false))
        | _ => if isDirectory then throw .notDirectory else pure t
    let t := (t.unlink directory name).link toDirectory toName i
    match t.node? i with
    | some ⟨.directory entries _ reachable, _⟩ =>
      return t.setKind i (.directory entries toDirectory reachable)
    | _ => return t
  | .occupied .. => throw .busy
  | .vacant .. => throw .noEntry

/-- Moves one source to a path. -/
def movePath (name : Bytes) (keeps verbose : Bool) (source target : Bytes) : Run Bool := do
  match ← nodeAt false source with
  | .error e =>
    complainOf name (bytesOf "cannot stat " ++ Quoting.always source) e
    return false
  | .ok (i, n) =>
    let there ← nodeAt false target
    if keeps && there.toOption.isSome then
      complain name (bytesOf "not replacing " ++ Quoting.always target)
      return false
    else if there.toOption.any (fun f => f.1 = i && !n.isDirectory) then
      complainOfSame name source target
    else if n.isDirectory && there.toOption.any (fun f => !f.2.isDirectory) then
      complain name (bytesOf "cannot overwrite non-directory " ++ Quoting.always target ++
        bytesOf " with directory " ++ Quoting.always source)
      return false
    else if !n.isDirectory && there.toOption.any (fun f => f.2.isDirectory) then
      complain name (bytesOf "cannot overwrite directory " ++ Quoting.always target ++
        bytesOf " with non-directory")
      return false
    else match ← change (fun t start => rename t start source target) with
      | .ok () =>
        if verbose then tellMove (bytesOf "renamed ") source (bytesOf " -> ") target
        return true
      | .error e =>
        if e = .invalidArgument && n.isDirectory then
          complain name (bytesOf "cannot move " ++ Quoting.always source ++
            bytesOf " to a subdirectory of itself, " ++ Quoting.always target)
        else if e = .notEmpty then
          complainOf name (bytesOf "cannot overwrite " ++ Quoting.always target) e
        else
          complainOf name (bytesOf "cannot move " ++ Quoting.always source ++ bytesOf " to " ++
            Quoting.always target) e
        return false

/-- Moves files. -/
def mv : Program := fun name args => do
  let (options, operands) ← Options.get
    ⟨['f', 'n', 'v', 'T', 'u'], ['t'],
      [("force", 'f'), ("no-clobber", 'n'), ("verbose", 'v'), ("target-directory", 't'),
        ("no-target-directory", 'T'), ("update", 'u')]⟩ name args 1
  let keeps := (options.filter (fun o => o.1 == 'f' || o.1 == 'n')).getLast?.any (·.1 == 'n')
  toDestination name ⟨valueOf options 't', given options 'T', false⟩ operands fun d source =>
    movePath name keeps (given options 'v') source (d.pathFor source)

end LineShell.Userland
