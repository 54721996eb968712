import LineShell.Userland.Sorting
import LineShell.Userland.Tree
/-!
# Listing directories

`ls` shows names in the order of their bytes: first the operands that are no directories, then the
contents of each directory. A directory that cannot be read is complained about in its turn.
-/

namespace LineShell.Userland

/-- The ten characters that show the kind of a node and its permissions. -/
def modeText (n : Node) : Bytes :=
  let bits := n.permissions.bits
  let has := fun (mask : Nat) => bits / mask % 2 == 1
  let kind := match n.kind with
    | .directory .. => 'd'
    | .link _ => 'l'
    | .device _ => 'c'
    | _ => '-'
  let triple := fun (unit special : Nat) (letter : Char) =>
    let execute := match has unit, has special with
      | true, true => letter
      | false, true => letter.toUpper
      | true, false => 'x'
      | false, false => '-'
    [if has (4 * unit) then 'r' else '-', if has (2 * unit) then 'w' else '-', execute]
  Text.bytes (kind :: (triple 64 2048 's' ++ triple 8 1024 's' ++ triple 1 512 't'))

/-- What `ls` puts behind a name. -/
def mark (options : List OptionGiven) (n : Node) : Bytes :=
  let all := given options 'F'
  match n.kind with
  | .directory .. => if all || given options 'p' then bytesOf "/" else []
  | .link _ => if all then bytesOf "@" else []
  | .file _ | .program _ =>
    if all && n.permissions.bits &&& 0o111 != 0 then bytesOf "*" else []
  | .device _ => []

/-- Whether `ls` shows a name. -/
def showsName (options : List OptionGiven) (name : Bytes) : Bool :=
  name.head? != some (byte '.') || given options 'a' || given options 'A'

/-- The size of what a node stands for. -/
def sizeOf (n : Node) : Nat :=
  match n.kind with
  | .file content => content.length
  | .link target => target.length
  | .directory .. => 4096
  | _ => 0

/-- A name with its node, as `ls` sorts and shows them. -/
abbrev Shown := Bytes × Node

/-- Names in the order in which they are shown. -/
def orderShown (options : List OptionGiven) (names : List Shown) : List Shown :=
  let byName := names.mergeSort (fun a b => bytesLe a.1 b.1)
  let ordered := if given options 'S' then
      byName.mergeSort (fun a b => sizeOf b.2 ≤ sizeOf a.2)
    else byName
  if given options 'U' then names
  else if given options 'r' then ordered.reverse
  else ordered

/-- One line of the long form. The machine has no clock and no names for its users. -/
def longLine (width : Nat) (name : Bytes) (n : Node) : Bytes :=
  let size := (Text.ofNat (sizeOf n)).bytes
  let target := match n.kind with
    | .link target => bytesOf " -> " ++ target
    | _ => []
  modeText n ++ bytesOf " 1 user user " ++ List.replicate (width - size.length) (byte ' ') ++ size ++
    bytesOf " Jan  1 00:00 " ++ name ++ target

/-- The lines for names. -/
def linesOfShown (options : List OptionGiven) (names : List Shown) : List Bytes :=
  if given options 'l' then
    let width := names.foldl (fun w e => max w (Text.ofNat (sizeOf e.2)).length) 0
    names.map (fun e => longLine width (e.1 ++ mark options e.2) e.2)
  else if given options 'm' then
    if names.isEmpty then []
    else [Bytes.join (bytesOf ", ") (names.map (fun e => e.1 ++ mark options e.2))]
  else names.map (fun e => e.1 ++ mark options e.2)

/-- What a directory that holds nothing would be. -/
def plainDirectory : Node := .emptyDirectory 0o755 FileTree.root

/-- The names of a directory that `ls` shows. -/
def shownIn (options : List OptionGiven) (t : FileTree) (directory : Inode) : List Shown :=
  let names := (t.entries directory).filter (fun e => showsName options e.1)
  let inside := names.filterMap (fun e => (t.node? e.2).map (fun n => (e.1, n)))
  let dots := if given options 'a' then
      [(Path.dot, (t.node? directory).getD plainDirectory), (Path.dots, plainDirectory)]
    else []
  orderShown options (dots ++ inside)

/-- The blocks that the names of a directory take. -/
def totalLine (names : List Shown) : Bytes :=
  let blocks := names.map (fun e => match e.2.kind with
    | .file content => (content.length + 4095) / 4096 * 4
    | .directory .. => 4
    | _ => 0)
  bytesOf "total " ++ (Text.ofNat (blocks.foldl Nat.add 0)).bytes

/-- The directories right below one that `ls` shows, each with its path. -/
def directoriesIn (options : List OptionGiven) (t : FileTree) (path : Bytes) (i : Inode) :
    List (Bytes × Inode) :=
  let inside := (t.entries i).filter (fun e => showsName options e.1 && t.isDirectory e.2)
  let under := if path.getLast? == some Path.slash then path else path ++ [Path.slash]
  let ordered := orderShown options (inside.filterMap (fun e =>
    (t.node? e.2).map (fun n => (e.1, n))))
  ordered.filterMap (fun e => (Table.get? e.1 inside).map (fun i => (under ++ e.1, i)))

/-- What listing directories has come to: whether nothing has been shown yet, and the exit code. -/
structure ListingState where
  first : Bool
  code : Nat

/-- Shows directories in order, each under its name when there are several; with `below` the ones in
a directory follow it. -/
def listDirectories (name : Bytes) (options : List OptionGiven) (headers below : Bool) :
    Nat → Bool → ListingState → List (Bytes × Inode) → Run ListingState
  | 0, _, s, _ => return s
  | _, _, s, [] => return s
  | fuel + 1, isOperand, s, (path, i) :: rest => do
    let (t, _) ← here
    let s ← if !t.allows i .read then do
        complainOf name (bytesOf "cannot open directory " ++ Quoting.always path) .accessDenied
        pure { s with code := max s.code (if isOperand then 2 else 1) }
      else do
        if headers then
          out ((if s.first then [] else [10]) ++ path ++ bytesOf ":\n")
        let shown := shownIn options t i
        if given options 'l' then outLines [totalLine shown]
        outLines (linesOfShown options shown)
        let s := { s with first := false }
        if below then
          listDirectories name options headers below fuel false s (directoriesIn options t path i)
        else pure s
    listDirectories name options headers below fuel isOperand s rest

/-- Lists names. -/
def ls : Program := fun name args => do
  let (options, operands) ← Options.get
    ⟨['1', 'a', 'A', 'd', 'r', 'R', 'p', 'F', 'C', 'x', 'l', 'm', 'U', 'S', 'H', 'L', 'N', 'q'], [],
      [("all", 'a'), ("almost-all", 'A'), ("directory", 'd'), ("reverse", 'r'),
        ("recursive", 'R'), ("classify", 'F')]⟩ name args 2
  let operands := if operands.isEmpty then [bytesOf "."] else operands
  let (t, start) ← here
  let long := given options 'l' || given options 'd' || given options 'F'
  let found ← operands.mapM (fun operand => do
    -- A link is followed only to a directory whose contents will be shown.
    let follows := match t.find true start operand with
      | .ok i => t.isDirectory i && !long
      | .error _ => false
    match t.find follows start operand with
    | .ok i => pure ((t.node? i).map (fun n => (operand, i, n)))
    | .error e => do
      complainOf name (bytesOf "cannot access " ++ Quoting.always operand) e
      pure none)
  let present := found.filterMap id
  let isDir := fun (e : Bytes × Inode × Node) => e.2.2.isDirectory && !given options 'd'
  let pick := fun (p : Bytes × Inode × Node → Bool) =>
    let picked := present.filter p
    (orderShown options (picked.map (fun e => (e.1, e.2.2)))).filterMap (fun s =>
      picked.find? (fun e => e.1 == s.1))
  let files := pick (fun e => !isDir e)
  let directories := (pick isDir).map (fun e => (e.1, e.2.1))
  outLines (linesOfShown options (files.map (fun e => (e.1, e.2.2))))
  let recursive := given options 'R'
  let code := if found.all Option.isSome then 0 else 2
  let s ← listDirectories name options (recursive || 1 < operands.length) recursive
    (2 * t.nodes.length + operands.length + 2) true ⟨files.isEmpty, code⟩ directories
  return s.code

end LineShell.Userland
