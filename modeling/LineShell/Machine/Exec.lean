import LineShell.Machine.Context
/-!
# Starting programs

From a name and arguments to the program that will run. A name with a slash is a path; any other
name is looked for in the directories of `PATH`. An executable file that begins with `#!` names its
interpreter; one of no known format is run by the command interpreter `/bin/sh`.

Only the first `headLength` bytes of a file are looked at for the interpreter, and bytes that the
file does not have count as NUL. `Exec.Script.ofContent?` reads them: the name must be whole, which
a line feed or a blank behind it shows, while the argument may be cut off; both end at a NUL.

In the search a refusal is remembered and a missing file passed over; other failures end it. At the
end a remembered refusal counts more than the last missing file.
-/

namespace LineShell.Exec

/-- The greatest size of one argument or variable, its end mark included. -/
def argumentLimit : Nat := 131072

/-- The room for all arguments and variables, and for one pointer to each. -/
def totalLimit : Nat := 2097152

/-- How many interpreters may stand behind each other. -/
def interpreterLimit : Nat := 5

/-- How many bytes of a file decide how it is run. -/
def headLength : Nat := 256

/-- An entry of `PATH` has fewer bytes than this. -/
def entryLimit : Nat := 4096

/-- The directories searched when there is no `PATH`. -/
def defaultPath : Bytes := bytesOf "/bin:/usr/bin"

/-- The command interpreter. -/
def shellPath : Bytes := bytesOf "/bin/sh"

/-! ### Interpreter lines -/

/-- Blanks in an interpreter line. -/
def isLineBlank (b : UInt8) : Bool := b == 0x20 || b == 0x09

/-- Where an interpreter's name can end. -/
def endsName (b : UInt8) : Bool := isLineBlank b || b == 0

/-- The first position of a byte of a class, both ends of the range included. -/
def firstWithin (p : UInt8 → Bool) (bytes : Bytes) (first last : Nat) : Option Nat :=
  (((bytes.take (last + 1)).drop first).findIdx? p).map (· + first)

/-- The bytes from a position up to another one or to a NUL before it. -/
def upToNul (bytes : Bytes) (first last : Nat) : Bytes :=
  ((bytes.take last).drop first).takeWhile (· != 0)

/-- What the first line of a script says: the interpreter and its argument. -/
structure Script where
  interpreter : Bytes
  argument : Option Bytes
  deriving DecidableEq, Repr

/-- Where the interpreter line ends: at the line feed, or at the end of the head if the name ends
before. -/
def Script.lineEnd? (head : Bytes) : Option Nat :=
  match firstWithin (· == 10) head 2 (headLength - 1) with
  | some i => some i
  | none => do
    let name ← firstWithin (fun b => !isLineBlank b) head 2 (headLength - 1)
    let _ ← firstWithin endsName head name (headLength - 1)
    return headLength - 1

/-- Reads the interpreter line of a file, if it has one. -/
def Script.ofContent? (content : Bytes) : Option Script :=
  if content.take 2 != [0x23, 0x21] then none
  else do
    let head := content.take headLength ++ List.replicate (headLength - content.length) 0
    let lineEnd ← Script.lineEnd? head
    let last := lineEnd - ((head.take lineEnd).reverse.takeWhile isLineBlank).length
    let name ← firstWithin (fun b => !isLineBlank b) head 2 last
    if name = last then none
    let nameEnd := (firstWithin endsName head name last).getD last
    let argument :=
      if (head[nameEnd]?).any isLineBlank then
        firstWithin (fun b => !isLineBlank b) head nameEnd last
      else none
    match argument with
    | none => return ⟨upToNul head name last, none⟩
    | some i => return ⟨upToNul head name nameEnd, some (upToNul head i last)⟩

/-! ### Files that can run -/

/-- Whether arguments and variables are small enough, together with the name of the file; `count`
is how many arguments the call was given. -/
def fits (file : Bytes) (count : Nat) (argv : List Bytes) (env : Environment) : Bool :=
  let sizes := argv.map (fun a => a.length + 1) ++
    env.map (fun e => Text.Utf8.size e.1 + e.2.length + 2)
  sizes.all (· ≤ argumentLimit) &&
    file.length + 1 + sizes.foldl Nat.add 0 + 8 * (count + env.length) ≤ totalLimit

/-- The node at a path, if it can be run. The empty path leads to a directory. -/
def executable (c : Context) (path : Bytes) : Except Errno Node :=
  if path.isEmpty then .error .accessDenied
  else match c.machine.tree.find true c.self.directory path with
    | .error e => .error e
    | .ok i =>
      match c.machine.tree.node? i with
      | some ⟨.directory .., _⟩ | none => .error .accessDenied
      | some n => if n.permissions.allows .execute then .ok n else .error .accessDenied

/-- The program that a node starts, `count` and `file` being of the call. An interpreter is opened
before the interpreters are counted. -/
def resolve (c : Context) (file : Bytes) (count : Nat) :
    Nat → Node → Bytes → List Bytes → Except Errno Image
  | fuel, node, path, argv =>
    if !fits file count argv c.self.environment then .error .argumentsTooLong
    else match node.kind with
      | .program name => .ok ⟨name, argv⟩
      | .file content =>
        match Script.ofContent? content with
        | none => .error .formatError
        | some script =>
          -- The path of the script stands in for the name it was started by.
          let argv := [script.interpreter] ++ script.argument.toList ++ [path] ++ argv.drop 1
          let name := script.interpreter
          match executable c name with
          | .error e =>
            .error (if fits file count argv c.self.environment then e else .argumentsTooLong)
          | .ok node =>
            match fuel with
            | 0 => .error .tooManyLinks
            | fuel + 1 => resolve c file count fuel node name argv
      | _ => .error .accessDenied
termination_by structural fuel => fuel

/-- The program that a path starts with the given arguments. -/
def load (c : Context) (path : Bytes) (argv : List Bytes) : Except Errno Image :=
  match executable c path with
  | .error e => .error e
  | .ok node => resolve c path (max argv.length 1) interpreterLimit node path argv

/-- The program of a path; a file of no known format is given to the command interpreter. -/
def loadOrInterpret (c : Context) (path : Bytes) (argv : List Bytes) : Except Errno Image :=
  match load c path argv with
  | .error e =>
    if e = .formatError then
      load c shellPath ([shellPath, path] ++ argv.drop 1)
    else .error e
  | found => found

/-! ### The search -/

/-- Whether a search goes on after a failure. -/
def passesOver (e : Errno) : Bool := e = .noEntry || e = .notDirectory || e = .accessDenied

/-- Searches directories for a name. `refused` says whether a refusal was met, `last` is the last
failure. -/
def search (c : Context) (name : Bytes) (argv : List Bytes) (refused : Bool) (last : Errno) :
    List Bytes → Except Errno Image
  | [] => .error (if refused then .accessDenied else last)
  | directory :: rest =>
    let tooLong := entryLimit ≤ directory.length
    if tooLong && rest.isEmpty then .error (if refused then .accessDenied else last)
    else
      -- An empty directory is the working directory, and so is one that is too long.
      let path := if directory.isEmpty || tooLong then name else directory ++ Path.slash :: name
      match loadOrInterpret c path argv with
      | .ok image => .ok image
      | .error e =>
        if passesOver e then search c name argv (refused || e == .accessDenied) e rest
        else .error e

/-- The program that a command name starts. -/
def find (c : Context) (name : Bytes) (argv : List Bytes) : Except Errno Image :=
  if name.isEmpty then .error .noEntry
  else if name.contains Path.slash then loadOrInterpret c name argv
  else if Path.nameLimit < name.length then .error .nameTooLong
  else
    let path := (c.self.environment.lookup? (Text.lit "PATH")).getD defaultPath
    search c name argv false .noEntry (Bytes.pieces 0x3a path)

/-- What is left of a process when it starts a program: descriptors that are to end with the old
program are closed, and handlers are gone. -/
def enter (p : Process) : Process :=
  { p with
    descriptors := DescriptorTable.atExec p.descriptors
    interrupts := p.interrupts.atExec }

end LineShell.Exec

namespace LineShell.Call

/-- Starts a program in this process; on failure nothing changes. -/
def exec (name : Bytes) (argv : List Bytes) : Call (Except Errno Image) := do
  let c ← get
  match Exec.find c name argv with
  | .error e => return .error e
  | .ok image => set { c with self := Exec.enter c.self }; return .ok image

end LineShell.Call
