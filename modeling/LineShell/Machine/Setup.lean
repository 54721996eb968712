import LineShell.Machine.World
/-!
# Setting up a machine

A machine with the installed programs, files put at given paths, and the world of a first process on
it; and the way back, a listing of all that lies below a directory.
-/

namespace LineShell

namespace FileTree

/-- Puts a node at a path below a directory, making the directories on the way. What is there
already stays when it is a directory. -/
def plant (t : FileTree) (start : Inode) (path : Bytes) (n : Node) : FileTree :=
  let t := match Path.parent? path with
    | some parent =>
      match t.makeDirectories start 0o755 path.length parent with
      | .ok t => t
      | .error (_, t) => t
    | none => t
  match t.walk false start path with
  | .ok (.vacant directory name) =>
    let n := match n.kind with
      | .directory entries _ reachable => { n with kind := .directory entries directory reachable }
      | _ => n
    match t.create directory name n with
    | .ok (t, _) => t
    | .error _ => t
  | .ok (.occupied i _) => if t.isDirectory i then t else t.setNode i n
  | .error _ => t

/-- The same tree with everything in it belonging to the machine. -/
def handedOver (t : FileTree) : FileTree :=
  ⟨t.nodes.map (fun n => { n with permissions := { n.permissions with owned := false } })⟩

/-- The directories that every machine has, besides those of its programs, with their permissions. -/
def standardDirectories : List (String × Nat) :=
  ["boot", "dev", "etc", "home", "media", "mnt", "opt", "proc", "run", "srv", "sys",
    "usr/include", "usr/lib", "usr/local/bin", "usr/local/lib", "usr/local/share", "usr/sbin",
    "usr/share", "usr/src", "var/cache", "var/lib", "var/log", "var/mail", "var/spool"].map
      (fun path => (path, 0o755)) ++
    [("root", 0o700), ("tmp", 0o1777), ("var/tmp", 0o1777)]

/-- The links of the root directory to directories of programs and libraries. -/
def standardLinks : List Bytes := ["bin", "lib", "sbin"].map (fun name => bytesOf name)

/-- The devices that every machine has, and the names for the open numbers of a process. Nothing is
said about what a source of chance holds, so zeros will do. -/
def standardDevices : List (Bytes × Node) :=
  ([("null", .null), ("zero", .zero), ("full", .full), ("random", .zero), ("urandom", .zero),
      ("tty", .terminal)] : List (String × Device)).map
    (fun e => (bytesOf "dev/" ++ bytesOf e.1, ⟨.device e.2, .own 0o666⟩)) ++
  (List.range 10).map (fun number =>
    (bytesOf "proc/self/fd/" ++ (Text.ofNat number).bytes, ⟨.device (.handle number), .own 0o777⟩)) ++
  ([("fd", "/proc/self/fd"), ("stdin", "/proc/self/fd/0"), ("stdout", "/proc/self/fd/1"),
      ("stderr", "/proc/self/fd/2")] : List (String × String)).map
    (fun e => (bytesOf "dev/" ++ bytesOf e.1, .link (bytesOf e.2)))

/-- The tree with programs installed, and the directories that every machine has. All of it belongs
to the user. -/
def privateInstallation (programs : List Text) : FileTree :=
  let t : FileTree := ⟨[.emptyDirectory 0o755 root]⟩
  let t := programs.foldl (fun t name =>
    t.plant root (bytesOf "usr/bin/" ++ name.bytes) ⟨.program name, .own 0o755⟩) t
  let t := standardDirectories.foldl (fun t e =>
    t.plant root (bytesOf e.1) (.emptyDirectory e.2 root)) t
  let t := standardLinks.foldl (fun t name =>
    t.plant root name (.link (bytesOf "usr/" ++ name))) t
  standardDevices.foldl (fun t e => t.plant root e.1 e.2) t

/-- The same tree, belonging to the machine. -/
def installation (programs : List Text) : FileTree := handedOver (privateInstallation programs)

/-- One entry of a listing. -/
inductive Listed where
  | file (content : Bytes)
  | directory
  | link (target : Bytes)
  deriving DecidableEq, Repr

/-- All that lies below a directory, each with its path from there; at most `fuel` levels deep. -/
def listing (t : FileTree) : Nat → Bytes → Inode → List (Bytes × Listed)
  | 0, _, _ => []
  | fuel + 1, before, directory =>
    (t.entries directory).flatMap fun e =>
      let path := before ++ e.1
      match (t.node? e.2).map Node.kind with
      | some (.file content) => [(path, .file content)]
      | some (.directory ..) => (path, .directory) :: listing t fuel (path ++ [Path.slash]) e.2
      | some (.link target) => [(path, .link target)]
      | _ => []

end FileTree

namespace Machine

/-- A machine on which nothing has run. -/
def fresh (t : FileTree) : Machine :=
  { tree := t, descriptions := [], pipes := [], out := [], err := [] }

end Machine

namespace World

/-- What the input of the first process is. -/
inductive Input where
  | nothing
  | bytes (b : Bytes)
  | terminal
  deriving DecidableEq, Repr

/-- The world of a first process: input, output and error output are numbers 0, 1 and 2. With a
terminal as input the error output goes to it as well. -/
def start (t : FileTree) (directory : Inode) (env : Environment) (directories : Directories)
    (userland : Userland) (input : Input) : World :=
  let reading : Channel → Description := fun c => ⟨c, 0, false, true, false⟩
  let writing : Channel → Description := fun c => ⟨c, 0, false, false, true⟩
  let (t, first) := match input with
    | .nothing => (t, reading (.device .null))
    | .terminal => (t, reading .terminal)
    | .bytes b =>
      let (t, i) := t.addNode (.file b 0o600)
      (t, reading (.node i))
  let third := if input = .terminal then .terminal else .console .err
  { self :=
      { pid := 4000, parent := 3999
        descriptors := [(0, ⟨0, false⟩), (1, ⟨1, false⟩), (2, ⟨2, false⟩)]
        limit := 1024
        interrupts := .atStart
        directory := directory
        mask := 0o022
        environment := env }
    machine := { Machine.fresh t with
      descriptions := [first, writing (.console .out), writing third] }
    children := []
    nextPid := 4001
    userland := userland
    directories := directories
    faults := fun _ _ => none
    calls := []
    endings := fun _ => []
    polls := 0
    trace := []
    log := none }

end World

end LineShell
