import LineShell.Userland.Listing
import LineShell.Userland.Modes
/-!
# What is known of a file

`touch`, `chmod`, `truncate` and `stat`. The machine has no clock, so that touching a file only
makes it when it is not there.
-/

namespace LineShell.Userland

/-! ### touch -/

/-- Makes a file where there is none. What is there may be touched by its owner and by those who may
write to it. -/
def touchOne (name : Bytes) (noCreate : Bool) (operand : Bytes) : Run Bool := do
  let complaint := fun (words : String) (e : Errno) => do
    complainOf name (bytesOf words ++ Quoting.always operand) e
    return false
  match ← nodeAt true operand with
  | .ok (_, n) =>
    if n.permissions.owned || n.permissions.allows .write then return true
    else complaint "cannot touch " .accessDenied
  | .error e =>
    if e = .noEntry && noCreate then return true
    else if Path.endsInSlash operand && (e = .noEntry || e = .notDirectory) then
      complaint "setting times of " e
    else match ← (Call.openFile operand ⟨false, true, true, false, false, false⟩ : Call _) with
      | .ok fd => (Call.close fd : Call Unit); return true
      | .error e => complaint "cannot touch " e

/-- Makes files where there are none. -/
def touch : Program := fun name args => do
  let (options, operands) ← Options.get
    ⟨['c', 'a', 'm', 'h', 'f'], ['d', 't', 'r'],
      [("no-create", 'c'), ("date", 'd'), ("reference", 'r'), ("no-dereference", 'h')]⟩ name args 1
  if operands.isEmpty then misuse name (bytesOf "missing file operand") 1
  else
    match valueOf options 'r' with
    | some reference =>
      if let .error e := ← nodeAt true reference then
        complainOf name (bytesOf "failed to get attributes of " ++ Quoting.always reference) e
        exit 1
    | none => pure ()
    return codeOf (← forAll (touchOne name (given options 'c')) operands)

/-! ### chmod -/

/-- How `chmod` tells what it does. -/
structure Telling where
  changes : Bool
  all : Bool
  silent : Bool

/-- The bits of a mode as shown in reports. -/
def shownBits (bits : Nat) : Bytes :=
  octalText bits ++ bytesOf " (" ++ (modeText (.file [] bits)).drop 1 ++ bytesOf ")"

/-- Changes the mode of one node. `given` says that the mode stood as an option, where the mask may
surprise. -/
def changeMode (name : Bytes) (tell : Telling) (mode : Nat → Bool → Nat → Nat) (asOption : Bool)
    (path : Bytes) (i : Inode) (n : Node) : Run Bool := do
  let mask := (← (get : Call Context)).self.mask
  let before := n.permissions.bits
  let after := mode mask n.isDirectory before
  match ← change (fun t _ => setBits t i after) with
  | .error e =>
    if !tell.silent then
      complainOf name (bytesOf "changing permissions of " ++ Quoting.always path) e
    if tell.all then
      outLines [bytesOf "failed to change mode of " ++ Quoting.always path ++ bytesOf " from " ++
        shownBits before ++ bytesOf " to " ++ shownBits after]
    return false
  | .ok () =>
    if before ≠ after && (tell.changes || tell.all) then
      outLines [bytesOf "mode of " ++ Quoting.always path ++ bytesOf " changed from " ++
        shownBits before ++ bytesOf " to " ++ shownBits after]
    else if tell.all then
      outLines [bytesOf "mode of " ++ Quoting.always path ++ bytesOf " retained as " ++
        shownBits after]
    let naive := mode 0 n.isDirectory before
    if asOption && Permissions.masked after naive != 0 then
      complain name (Quoting.whereNeeded path ++ bytesOf ": new permissions are " ++
        (modeText (.file [] after)).drop 1 ++ bytesOf ", not " ++
        (modeText (.file [] naive)).drop 1)
      return false
    else return true

/-- Changes the mode at a path, and with `recursive` of all below it. -/
def changeModes (name : Bytes) (tell : Telling) (mode : Nat → Bool → Nat → Nat)
    (asOption recursive : Bool) : Nat → Bool → Bytes → Run Bool
  | 0, _, _ => return false
  | fuel + 1, isOperand, path => do
    let refuse := fun (words : String) (e : Errno) => do
      if !tell.silent then complainOf name (bytesOf words ++ Quoting.always path) e
      if tell.all then outLines [Quoting.always path ++ bytesOf " could not be accessed"]
      return false
    match ← nodeAt isOperand path with
    | .error e =>
      if (← nodeAt false path).toOption.any (fun f => f.2.isLink) && e = .noEntry then
        if !tell.silent then
          complain name (bytesOf "cannot operate on dangling symlink " ++ Quoting.always path)
        if tell.all then outLines [Quoting.always path ++ bytesOf " could not be accessed"]
        return false
      else refuse "cannot access " e
    | .ok (i, n) =>
      -- Links below a directory are left alone.
      if n.isLink then return true
      else
        let ok ← changeMode name tell mode asOption path i n
        if recursive && n.isDirectory then
          let (t, _) ← here
          if t.allows i .read then
            let inside ← forAll (fun (e : Bytes × Inode) =>
              changeModes name tell mode asOption recursive fuel false (Path.join path e.1))
              (t.entries i)
            return ok && inside
          else
            if !tell.silent then
              complainOf name (bytesOf "cannot read directory " ++ Quoting.always path)
                .accessDenied
            return false
        else return ok

/-- Whether a word looks like a mode that begins with a minus sign. -/
def isMinusMode (word : Bytes) : Bool :=
  match word with
  | 0x2d :: first :: rest =>
    (bytesOf "rwxXstugoa,+-=01234567").contains first &&
      rest.all (bytesOf "rwxXstugoa,+-=01234567").contains && first != byte '-'
  | _ => false

/-- Changes modes. -/
def chmod : Program := fun name args => do
  -- A mode that begins with a minus sign is taken out before the options are read.
  let beforeDashes := args.takeWhile (· != bytesOf "--")
  let minus := beforeDashes.filter isMinusMode
  let others := beforeDashes.filter (fun w => !isMinusMode w) ++ args.drop beforeDashes.length
  let (options, operands) ← Options.get
    ⟨['R', 'v', 'c', 'f'], ['\x00'],
      [("recursive", 'R'), ("verbose", 'v'), ("changes", 'c'), ("silent", 'f'), ("quiet", 'f'),
        ("reference", '\x00')]⟩ name others 1
  let has := given options
  let written := if minus.isEmpty then none else some (Bytes.join [byte ','] minus)
  let reference := valueOf options '\x00'
  let (mode, operands) := match reference, written with
    | some _, _ => (none, operands)
    | none, some m => (some m, operands)
    | none, none => (operands.head?, operands.drop 1)
  let apply : Nat → Bool → Nat → Nat ← match reference, mode with
    | some path, _ =>
      match ← nodeAt true path with
      | .ok (_, n) => pure (fun _ _ _ => n.permissions.bits)
      | .error e => do
        complainOf name (bytesOf "failed to get attributes of " ++ Quoting.always path) e
        exit 1
    | none, none => misuse name (bytesOf "missing operand") 1
    | none, some m =>
      if operands.isEmpty then
        if written.isSome then misuse name (bytesOf "missing operand") 1
        else misuse name (bytesOf "missing operand after " ++ Quoting.word m) 1
      else match Mode.parse? m with
        | some mode => pure (fun mask isDirectory bits => mode.apply isDirectory mask bits)
        | none => misuse name (bytesOf "invalid mode: " ++ Quoting.always m) 1
  if operands.isEmpty then misuse name (bytesOf "missing operand") 1
  else
    let (t, _) ← here
    let ok ← forAll (changeModes name ⟨has 'c', has 'v', has 'f'⟩ apply written.isSome (has 'R')
      (t.nodes.length + 1) true) operands
    return codeOf ok

/-! ### truncate -/

/-- A size with an optional sign in front and a unit behind. -/
def sizeWord? (word : Bytes) : Option (Option Char × Nat) :=
  let t := Bytes.text word
  let (sign, rest) := match t with
    | c :: rest => if ['+', '-', '<', '>', '/', '%'].contains c then (some c, rest) else (none, t)
    | [] => (none, [])
  let digits := rest.takeWhile Char.isDigit
  let unit? := match String.ofList (rest.drop digits.length) with
    | "" => some 1
    | "K" | "k" | "KiB" => some 1024
    | "KB" | "kB" => some 1000
    | "M" | "MiB" => some 1048576
    | "MB" => some 1000000
    | "G" | "GiB" => some 1073741824
    | "GB" => some 1000000000
    | _ => none
  match Text.toNat? digits, unit? with
  | some n, some unit => some (sign, n * unit)
  | _, _ => none

/-- Contents cut or filled with zeros to a size. -/
def resized (content : Bytes) (size : Nat) : Bytes :=
  content.take size ++ List.replicate (size - content.length) 0

/-- The size that a word makes of another one. -/
def newSize (sign : Option Char) (n old : Nat) : Nat :=
  match sign with
  | some '+' => old + n
  | some '-' => old - n
  | some '<' => min old n
  | some '>' => max old n
  | some '/' => if n = 0 then old else old / n * n
  | some '%' => if n = 0 then old else (old + n - 1) / n * n
  | _ => n

/-- Sets the size of files. -/
def truncate : Program := fun name args => do
  let (options, operands) ← Options.get
    ⟨['c', 'o'], ['s', 'r'],
      [("no-create", 'c'), ("size", 's'), ("reference", 'r'), ("io-blocks", 'o')]⟩ name args 1
  let (sign, size) ← match valueOf options 's' with
    | none => misuse name (bytesOf "you must specify either '--size' or '--reference'") 1
    | some word =>
      match sizeWord? word with
      | some s => pure s
      | none => do
        complain name (bytesOf "Invalid number: " ++ Quoting.word word)
        exit 1
  if operands.isEmpty then misuse name (bytesOf "missing file operand") 1
  else
    let ok ← forAll (fun operand => do
      let mode : OpenMode := ⟨false, true, !given options 'c', false, false, false⟩
      match ← (Call.openFile operand mode : Call _) with
      | .error e =>
        if given options 'c' && e = .noEntry then return true
        else
          complainOf name (bytesOf "cannot open " ++ Quoting.always operand ++
            bytesOf " for writing") e
          return false
      | .ok fd =>
        (Call.close fd : Call Unit)
        let _ ← change (fun t start => do
          let i ← t.find true start operand
          match t.node? i with
          | some ⟨.file content, _⟩ =>
            return t.setKind i (.file (resized content (newSize sign size content.length)))
          | _ => return t)
        return true) operands
    return codeOf ok

/-! ### stat -/

/-- The kind of a node in words. -/
def kindWords (n : Node) : Bytes :=
  match n.kind with
  | .directory .. => bytesOf "directory"
  | .link _ => bytesOf "symbolic link"
  | .device _ => bytesOf "character special file"
  | .program _ => bytesOf "regular file"
  | .file content => bytesOf (if content.isEmpty then "regular empty file" else "regular file")

/-- How many names lead to a node. -/
def nameCount (t : FileTree) (i : Inode) (n : Node) : Nat :=
  match n.kind with
  | .directory entries .. => 2 + (entries.filter (fun e => t.isDirectory e.2)).length
  | _ => (t.nodes.map (fun m => match m.kind with
      | .directory entries .. => (entries.filter (fun e => e.2 == i)).length
      | _ => 0)).foldl Nat.add 0

/-- What a directive of a format shows. -/
def statDirective (t : FileTree) (path : Bytes) (i : Inode) (n : Node) (letter : UInt8) : Bytes :=
  let number := fun (k : Nat) => (Text.ofNat k).bytes
  match Char.ofNat letter.toNat with
  | 'n' => path
  | 'N' => Quoting.always path ++ (match n.kind with
      | .link target => bytesOf " -> " ++ Quoting.always target
      | _ => [])
  | 's' => number (sizeOf n)
  | 'a' => Text.bytes (Nat.toDigits 8 n.permissions.bits)
  | 'A' => modeText n
  | 'F' => kindWords n
  | 'h' => number (nameCount t i n)
  | 'i' => number i
  | '%' => bytesOf "%"
  | _ => [byte '?']

/-- The text of a format for one node. -/
def statText (t : FileTree) (path : Bytes) (i : Inode) (n : Node) : Bytes → Bytes
  | [] => []
  | [b] => [b]
  | 0x25 :: letter :: rest => statDirective t path i n letter ++ statText t path i n rest
  | b :: rest => b :: statText t path i n rest

/-- Shows what is known of files, in a given format. -/
def stat : Program := fun name args => do
  let (options, operands) ← Options.get
    ⟨['L', 'f', 't'], ['c'], [("dereference", 'L'), ("format", 'c')]⟩ name args 1
  if operands.isEmpty then misuse name (bytesOf "missing operand") 1
  else
    let ok ← forAll (fun operand => do
      match ← nodeAt (given options 'L') operand with
      | .error e =>
        complainOf name (bytesOf "cannot statx " ++ Quoting.always operand) e
        return false
      | .ok (i, n) =>
        let (t, _) ← here
        outLines [statText t operand i n ((valueOf options 'c').getD (bytesOf "%n"))]
        return true) operands
    return codeOf ok

end LineShell.Userland
