import LineShell.Error.IoError
import LineShell.Machine.Process
/-!
# Machines and calls

A machine has a file tree, open descriptions, pipes and a console with two channels. A *context* is
a machine seen from one process; calls are state transformers of it. Whether a call is allowed to
fail for reasons outside the machine is not decided here.

* An open description holds the position, so that a child shares it with its parent.
* A pipe holds a *stream*: finitely many bytes, then perhaps a cycle for ever. Reading never waits:
  by the time a reader runs, its writer has written all it will.
* Writing to a pipe that nobody reads fails.
-/

namespace LineShell

/-- The two output channels of the console. -/
inductive Console where
  | out
  | err
  deriving DecidableEq, Repr

/-- What an open description leads to. -/
inductive Channel where
  | node (i : Inode)
  | device (d : Device)
  | pipeRead (pipe : Nat)
  | pipeWrite (pipe : Nat)
  | console (c : Console)
  | terminal
  deriving DecidableEq, Repr

/-- An open description. -/
structure Description where
  channel : Channel
  offset : Nat
  append : Bool
  readable : Bool
  writable : Bool
  deriving DecidableEq, Repr

/-- Bytes, followed by a cycle of bytes for ever when the cycle is not empty. -/
structure Stream where
  bytes : Bytes
  cycle : Bytes
  deriving DecidableEq, Repr

namespace Stream

/-- A finite stream. -/
def finite (bytes : Bytes) : Stream := ⟨bytes, []⟩

/-- One stream behind another; nothing comes behind an endless one. -/
def append (s t : Stream) : Stream :=
  if s.cycle.isEmpty then ⟨s.bytes ++ t.bytes, t.cycle⟩ else s

/-- Unrolls the cycle until at least `n` bytes are at hand, or as far as it goes. -/
def unroll (s : Stream) (n : Nat) : Stream :=
  if s.cycle.isEmpty || n ≤ s.bytes.length then s
  -- Whole rounds only, so that the cycle still begins behind them.
  else { s with bytes := s.bytes ++
    (List.replicate ((n - s.bytes.length) / s.cycle.length + 1) s.cycle).flatten }

end Stream

/-- A pipe. -/
structure Pipe where
  content : Stream
  /-- Whether some process still holds a read end. -/
  hasReader : Bool
  deriving DecidableEq, Repr

/-- Everything that processes share. -/
structure Machine where
  tree : FileTree
  descriptions : List Description
  pipes : List Pipe
  out : Bytes
  err : Bytes
  deriving DecidableEq, Repr

/-- A machine seen from one process. -/
structure Context where
  self : Process
  machine : Machine
  deriving DecidableEq, Repr

/-- How a file is opened. -/
structure OpenMode where
  readable : Bool
  writable : Bool
  create : Bool
  truncate : Bool
  append : Bool
  closeOnExec : Bool
  deriving DecidableEq, Repr

namespace OpenMode

/-- For reading only. -/
def reading : OpenMode := ⟨true, false, false, false, false, false⟩

/-- For writing, with former contents dropped. -/
def truncating : OpenMode := ⟨false, true, true, true, false, false⟩

/-- For writing behind former contents. -/
def appending : OpenMode := ⟨false, true, true, false, true, false⟩

end OpenMode

namespace Machine

/-- The open description of a number. -/
def description? (m : Machine) (d : Nat) : Option Description := m.descriptions[d]?

/-- Adds an open description. -/
def addDescription (m : Machine) (d : Description) : Machine × Nat :=
  ({ m with descriptions := m.descriptions ++ [d] }, m.descriptions.length)

/-- Replaces a pipe. -/
def setPipe (m : Machine) (p : Nat) (pipe : Pipe) : Machine :=
  { m with pipes := m.pipes.set p pipe }

/-- Moves the position of an open description. -/
def setOffset (m : Machine) (d : Nat) (offset : Nat) : Machine :=
  { m with descriptions := m.descriptions.modify d (fun e => { e with offset := offset }) }

/-- Contents with bytes written at a position; a gap before the position is filled with zeros. -/
def overwrite (content : Bytes) (offset : Nat) (bytes : Bytes) : Bytes :=
  content.take offset ++ List.replicate (offset - content.length) 0 ++ bytes ++
    content.drop (offset + bytes.length)

/-- Writes to a regular file; anything else takes no bytes here. -/
def writeNode (m : Machine) (i : Inode) (d : Nat) (desc : Description) (bytes : Bytes) : Machine :=
  match m.tree.node? i with
  | some ⟨.file content, _⟩ =>
    -- Several processes that append never write over each other.
    let offset := if desc.append then content.length else desc.offset
    let m := { m with tree := m.tree.setKind i (.file (overwrite content offset bytes)) }
    m.setOffset d (offset + bytes.length)
  | _ => m

/-- Writes to an open description. -/
def writeTo (m : Machine) (d : Nat) (bytes : Bytes) : Except Errno Machine :=
  match m.description? d with
  | none => .error .badDescriptor
  | some desc =>
    if !desc.writable then .error .badDescriptor
    else match desc.channel with
      | .node i => .ok (m.writeNode i d desc bytes)
      | .device .full => .error .noSpace
      | .device _ => .ok m
      | .pipeRead _ => .error .badDescriptor
      | .pipeWrite p =>
        match m.pipes[p]? with
        | some pipe =>
          if pipe.hasReader then
            .ok (m.setPipe p { pipe with content := pipe.content.append (.finite bytes) })
          else .error .brokenPipe
        | none => .error .badDescriptor
      | .console .out => .ok { m with out := m.out ++ bytes }
      | .console .err => .ok { m with err := m.err ++ bytes }
      | .terminal => .ok m

/-- All that is left to read behind an open description, without moving it. -/
def ahead (m : Machine) (d : Nat) : Except Errno Stream :=
  match m.description? d with
  | none => .error .badDescriptor
  | some desc =>
    if !desc.readable then .error .badDescriptor
    else match desc.channel with
      | .node i =>
        match (m.tree.node? i).map Node.kind with
        | some (.file content) => .ok (.finite (content.drop desc.offset))
        | some (.directory ..) => .error .isDirectory
        | some (.program _) => .ok (.finite [])
        | _ => .error .badDescriptor
      | .pipeRead p =>
        match m.pipes[p]? with
        | some pipe => .ok pipe.content
        | none => .error .badDescriptor
      | .pipeWrite _ => .error .badDescriptor
      | .device .zero | .device .full => .ok ⟨[], [0]⟩
      | .device _ | .console _ | .terminal => .ok (.finite [])

/-- Moves an open description past bytes that were read. -/
def consume (m : Machine) (d : Nat) (count : Nat) : Machine :=
  match m.description? d with
  | none => m
  | some desc =>
    match desc.channel with
    | .node _ => m.setOffset d (desc.offset + count)
    | .pipeRead p =>
      match m.pipes[p]? with
      | some pipe =>
        let content := pipe.content.unroll count
        m.setPipe p { pipe with content := { content with bytes := content.bytes.drop count } }
      | none => m
    | _ => m

end Machine

/-- A call of one process on the machine. -/
abbrev Call := StateM Context

namespace Call

/-- The handle of an open number. -/
def handle? (fd : Nat) : Call (Option Handle) := do
  return Table.get? fd (← get).self.descriptors

/-- Gives a description the lowest free number. -/
def allocate (description : Nat) (closeOnExec : Bool) : Call (Except Errno Nat) := do
  let c ← get
  let fd := DescriptorTable.lowestFree c.self.descriptors
  if fd < c.self.limit then
    set { c with self := { c.self with
      descriptors := Table.put fd ⟨description, closeOnExec⟩ c.self.descriptors } }
    return .ok fd
  else return .error .tooManyOpen

/-- Closes a number. -/
def close (fd : Nat) : Call Unit :=
  modify fun c => { c with self := { c.self with
    descriptors := Table.remove fd c.self.descriptors } }

/-- A further number for what is behind an open one. -/
def duplicate (fd : Nat) (closeOnExec : Bool) : Call (Except Errno Nat) := do
  match ← handle? fd with
  | none => return .error .badDescriptor
  | some h => allocate h.description closeOnExec

/-- Makes a number lead to where another one leads. -/
def duplicateTo (fd target : Nat) : Call (Except Errno Unit) := do
  match ← handle? fd with
  | none => return .error .badDescriptor
  | some h =>
    if fd = target then return .ok ()
    else
      modify fun c => { c with self := { c.self with
        descriptors := Table.put target ⟨h.description, false⟩ c.self.descriptors } }
      return .ok ()

/-- Makes a pipe; the read end comes first. -/
def pipe : Call (Except Errno (Nat × Nat)) := do
  let c ← get
  let p := c.machine.pipes.length
  let m : Machine := { c.machine with pipes := c.machine.pipes ++ [⟨.finite [], true⟩] }
  let (m, r) := m.addDescription ⟨.pipeRead p, 0, false, true, false⟩
  let (m, w) := m.addDescription ⟨.pipeWrite p, 0, false, false, true⟩
  set { c with machine := m }
  -- Either both numbers are given out or nothing has happened.
  match ← allocate r false with
  | .error e => set c; return .error e
  | .ok readEnd =>
    match ← allocate w false with
    | .error e => set c; return .error e
    | .ok writeEnd => return .ok (readEnd, writeEnd)

/-- Whether a node may be opened in a mode. -/
def permits (n : Node) (mode : OpenMode) : Bool :=
  (!mode.readable || n.permissions.allows .read) &&
    (!(mode.writable || mode.truncate) || n.permissions.allows .write)

/-- Opens a node that is no number of the process. -/
def openNode (t : FileTree) (i : Inode) (mode : OpenMode) : Except Errno (FileTree × Channel) :=
  match t.node? i with
  | none => .error .noEntry
  | some n =>
    match n.kind with
    | .directory .. =>
      if mode.writable || mode.create then .error .isDirectory
      else if permits n mode then .ok (t, .node i)
      else .error .accessDenied
    | .link _ => .error .noEntry
    | kind =>
      if !permits n mode then .error .accessDenied
      else match kind with
        | .device .terminal => .error .noDevice
        | .device d => .ok (t, .device d)
        | .file _ => .ok (if mode.truncate then t.setKind i (.file []) else t, .node i)
        | _ => .ok (t, .node i)

/-- Opens anew what an open number leads to. -/
def reopen (t : FileTree) (channel : Channel) (mode : OpenMode) :
    Except Errno (FileTree × Channel) :=
  match channel with
  | .node i => openNode t i mode
  | .pipeRead p | .pipeWrite p => .ok (t, if mode.writable then .pipeWrite p else .pipeRead p)
  | other => .ok (t, other)

/-- Whether a path asks for a directory under an ordinary name, by a slash at its end. -/
def namesDirectory (path : Bytes) : Bool :=
  Path.endsInSlash path &&
    (match (Path.names path).getLast? with
      | none => false
      | some name => name != Path.dot && name != Path.dots)

/-- The permission bits of a new file or directory. -/
def newBits (p : Process) (wanted : Nat) : Nat := Permissions.masked wanted p.mask

/-- Opens a path, and makes the file if it is asked for and not there. -/
def openPath (c : Context) (path : Bytes) (mode : OpenMode) : Except Errno (FileTree × Channel) :=
  let t := c.machine.tree
  let start := c.self.directory
  if mode.create && namesDirectory path then
    -- A file is never made under such a name, and the way to it must be there all the same.
    match t.walk false start (Path.trimmed path) with
    | .error e => .error e
    | .ok _ => .error .isDirectory
  else match t.walk true start path with
    | .error e => .error e
    | .ok (.vacant directory name) =>
      if mode.create then
        (t.create directory name (.file [] (newBits c.self 0o666))).map (fun r => (r.1, .node r.2))
      else .error .noEntry
    | .ok (.occupied i _) =>
      match (t.node? i).map Node.kind with
      | some (.device (.handle number)) =>
        match (Table.get? number c.self.descriptors).bind
            (fun h => c.machine.description? h.description) with
        | some d => reopen t d.channel mode
        | none => .error .noEntry
      | _ => openNode t i mode

/-- Opens a path. Nothing is made or truncated when no number is free. -/
def openFile (path : Bytes) (mode : OpenMode) : Call (Except Errno Nat) := do
  let c ← get
  if c.self.limit ≤ DescriptorTable.lowestFree c.self.descriptors then
    return .error .tooManyOpen
  else match openPath c path mode with
    | .error e => return .error e
    | .ok (tree, channel) =>
      let opened : Machine := { c.machine with tree := tree }
      let (m, d) := opened.addDescription
        ⟨channel, 0, mode.append, mode.readable, mode.writable⟩
      set { c with machine := m }
      allocate d mode.closeOnExec

/-- Writes to a number. -/
def write (fd : Nat) (bytes : Bytes) : Call (Except Errno Unit) := do
  match ← handle? fd with
  | none => return .error .badDescriptor
  | some h =>
    let c ← get
    match c.machine.writeTo h.description bytes with
    | .error e => return .error e
    | .ok m => set { c with machine := m }; return .ok ()

/-- Writes a cycle of bytes for ever; only a pipe can take it. -/
def writeEndless (fd : Nat) (cycle : Bytes) : Call (Except Errno Unit) := do
  match ← handle? fd with
  | none => return .error .badDescriptor
  | some h =>
    let c ← get
    match c.machine.description? h.description with
    | some ⟨.pipeWrite p, _, _, _, true⟩ =>
      match c.machine.pipes[p]? with
      | some pipe =>
        if pipe.hasReader then
          let m := c.machine.setPipe p { pipe with content := pipe.content.append ⟨[], cycle⟩ }
          set { c with machine := m }
          return .ok ()
        else return .error .brokenPipe
      | none => return .error .badDescriptor
    | _ => return .error .noSpace

/-- All that is left to read at a number, which is left as it is. -/
def peek (fd : Nat) : Call (Except Errno Stream) := do
  match ← handle? fd with
  | none => return .error .badDescriptor
  | some h => return (← get).machine.ahead h.description

/-- Moves a number past bytes that were read. -/
def skip (fd : Nat) (count : Nat) : Call Unit := do
  match ← handle? fd with
  | none => pure ()
  | some h => modify fun c => { c with machine := c.machine.consume h.description count }

/-- Reads at most so many bytes; none is the end. -/
def read (fd : Nat) (count : Nat) : Call (Except Errno Bytes) := do
  match ← peek fd with
  | .error e => return .error e
  | .ok s =>
    let bytes := (s.unroll count).bytes.take count
    skip fd bytes.length
    return .ok bytes

/-- Moves to a directory. -/
def changeDirectory (path : Bytes) : Call (Except Errno Unit) := do
  let c ← get
  match c.machine.tree.enterDirectory c.self.directory path with
  | .error e => return .error e
  | .ok i => set { c with self := { c.self with directory := i } }; return .ok ()

/-- The path of the working directory. -/
def workingDirectory : Call (Except Errno Bytes) := do
  let c ← get
  match c.machine.tree.pathOf? c.self.directory with
  | some path => return .ok path
  | none => return .error .noEntry

/-- Gives a variable a value. -/
def setVariable (name : Text) (value : Bytes) : Call Unit :=
  modify fun c => { c with self := { c.self with
    environment := Table.put name value c.self.environment } }

/-- Changes the file tree by a function that may fail. -/
def changeTree (f : FileTree → Inode → Except Errno FileTree) : Call (Except Errno Unit) := do
  let c ← get
  match f c.machine.tree c.self.directory with
  | .error e => return .error e
  | .ok tree => set { c with machine := { c.machine with tree := tree } }; return .ok ()

/-- Makes a directory and those on the way to it. -/
def makeDirectories (path : Bytes) : Call (Except Errno Unit) := do
  let c ← get
  match c.machine.tree.makeDirectories c.self.directory (newBits c.self 0o777) path.length path with
  | .ok tree => set { c with machine := { c.machine with tree := tree } }; return .ok ()
  | .error (e, tree) =>
    set { c with machine := { c.machine with tree := tree } }; return .error e

/-- A call with a path that may hold a NUL byte; such a path cannot be passed on. -/
def withPath {α : Type} (path : Bytes) (act : Bytes → Call (Except Errno α)) :
    Call (Except IoError α) := do
  if path.contains 0 then return .error .nulInPath
  else return (← act path).mapError .call

end Call

end LineShell
