import LineShell.Configuration.Load
import LineShell.Proofs.ChildRuns
import LineShell.Proofs.Descriptors
import LineShell.Proofs.InvalidParts
import LineShell.Proofs.Lines
import LineShell.Proofs.Settings
/-!
# Loading settings

What becomes of the settings when a shell starts. `Configuration.Finds` says what reading a path
comes to, in terms of the file tree: nothing there, something that cannot be read, or the contents
of a file. `Configuration.Settles` says what is made of that: the defaults if there is nothing, an
error, or the settings of a document that fills them. What is a document is up to the reader, which
may be any function from texts to documents or faults, and where the data of the user lie is up to
the lookup of the directories; `Configuration.DataHome` is about the usual one.

Reading leaves the world as it was but for an open description that no process has any more
(`World.opening`). The headline is `Configuration.init_settles`: a file makes all of the settings or
none of them, and only then something is reported.
-/

namespace LineShell

variable {c : Context} {path : Bytes}

/-! ### Opening for reading -/

namespace Call

variable {mode : OpenMode} {t t' : FileTree} {channel channel' : Channel}

/-- Opening changes no tree unless it makes a file or drops contents. -/
theorem NodeOpens.tree {i : Inode} (h : NodeOpens t i mode t' channel)
    (htruncate : mode.truncate = false) : t' = t := by
  cases h with
  | directory | program | device => rfl
  | file => rw [htruncate, if_neg Bool.false_ne_true]

theorem reopen_tree (htruncate : mode.truncate = false)
    (h : reopen t channel mode = .ok (t', channel')) : t' = t := by
  unfold reopen at h
  split at h
  · exact (nodeOpens_of_openNode h).tree htruncate
  · cases h
    rfl
  · cases h
    rfl
  · cases h
    rfl

theorem openPath_tree (hcreate : mode.create = false) (htruncate : mode.truncate = false)
    (h : openPath c path mode = .ok (t', channel)) : t' = c.machine.tree := by
  cases pathOpens_of_openPath h with
  | made hmakes =>
    rw [hcreate] at hmakes
    cases hmakes
  | again _ _ _ _ h => exact reopen_tree htruncate h
  | node _ h => exact h.tree htruncate

end Call

/-! ### Reading a file -/

/-- The context with further open descriptions, which no process has. -/
def Context.opening (c : Context) (opened : List Description) : Context :=
  { c with machine := { c.machine with descriptions := c.machine.descriptions ++ opened } }

theorem Context.opening_nil (c : Context) : c.opening [] = c := by
  unfold opening
  rw [List.append_nil]

/-- The world with further open descriptions, which no process has. -/
def World.opening (w : World) (opened : List Description) : World :=
  { w with toContext := w.toContext.opening opened }

namespace Configuration

/-- For reading, and not for programs that are started. -/
def readMode : OpenMode := { OpenMode.reading with closeOnExec := true }

/-- The open description of something that is read from its start. -/
def reading (channel : Channel) : Description := ⟨channel, 0, false, true, false⟩

/-- The path can be passed on, and there is a number for one more open file. -/
def Ready (c : Context) (path : Bytes) : Prop :=
  0 ∉ path ∧ c.self.descriptors.lowestFree < c.self.limit

theorem readFile_nul (h : 0 ∈ path) (c : Context) :
    (readFile path).run c = (.error .nulInPath, c) := by
  have hnul : path.contains 0 = true := by simpa using h
  unfold readFile Call.withPath
  rw [hnul]
  rfl

theorem run_readFile (h : 0 ∉ path) (c : Context) :
    (readFile path).run c =
      match (Call.openFile path readMode).run c with
      | (.error e, after) => (.error (.call e), after)
      | (.ok fd, after) =>
        ((((Call.peek fd).run after).1.map Stream.bytes).mapError .call,
          ((Call.close fd).run ((Call.peek fd).run after).2).2) := by
  have hfree : path.contains 0 = false := by simpa using h
  have hmode : ({ OpenMode.reading with closeOnExec := true } : OpenMode) = readMode := rfl
  unfold readFile Call.withPath
  rw [hfree, if_neg Bool.false_ne_true, hmode, run_bind, run_bind]
  rcases (Call.openFile path readMode).run c with ⟨e | fd, after⟩ <;> rfl

theorem readFile_crowded (h : 0 ∉ path) (hfull : c.self.limit ≤ c.self.descriptors.lowestFree) :
    (readFile path).run c = (.error (.call .tooManyOpen), c) := by
  have hopen : (Call.openFile path readMode).run c = (.error .tooManyOpen, c) := by
    unfold Call.openFile
    rw [run_bind, run_get]
    dsimp only
    rw [if_pos hfull]
    rfl
  rw [run_readFile h, hopen]

theorem readFile_refused {e : Errno} (h : Ready c path)
    (hopen : Call.openPath c path readMode = .error e) :
    (readFile path).run c = (.error (.call e), c) := by
  have hrun : (Call.openFile path readMode).run c = (.error e, c) := by
    unfold Call.openFile
    rw [run_bind, run_get]
    dsimp only
    rw [if_neg (Nat.not_le.2 h.2), hopen]
    rfl
  rw [run_readFile h.1, hrun]

/-- **What is opened is read to its end**, and its number is given back. -/
theorem readFile_opened {tree : FileTree} {channel : Channel} (h : Ready c path)
    (hopen : Call.openPath c path readMode = .ok (tree, channel)) :
    (readFile path).run c =
      ((((c.opening [reading channel]).machine.ahead c.machine.descriptions.length).map
          Stream.bytes).mapError .call, c.opening [reading channel]) := by
  obtain rfl := Call.openPath_tree rfl rfl hopen
  rw [run_readFile h.1, Call.run_openFile h.2 hopen]
  dsimp only
  rw [Call.run_peek (Table.get?_put_self _ _ _)]
  have htable := Table.remove_put (DescriptorTable.get?_lowestFree c.self.descriptors)
    (⟨c.machine.descriptions.length, readMode.closeOnExec⟩ : Handle)
  unfold Call.close
  rw [run_modify]
  dsimp only
  rw [htable]
  rfl

/-- **Reading changes nothing** but that there is an open description more. -/
theorem readFile_opening (path : Bytes) (c : Context) :
    ∃ opened, ((readFile path).run c).2 = c.opening opened := by
  by_cases hnul : 0 ∈ path
  · exact ⟨[], by rw [readFile_nul hnul, c.opening_nil]⟩
  by_cases hfree : c.self.descriptors.lowestFree < c.self.limit
  · cases hopen : Call.openPath c path readMode with
    | error e => exact ⟨[], by rw [readFile_refused ⟨hnul, hfree⟩ hopen, c.opening_nil]⟩
    | ok opened =>
      obtain ⟨tree, channel⟩ := opened
      exact ⟨[reading channel], by rw [readFile_opened ⟨hnul, hfree⟩ hopen]⟩
  · exact ⟨[], by rw [readFile_crowded hnul (Nat.not_lt.1 hfree), c.opening_nil]⟩

/-! ### What is at a path -/

/-- The node that a path leads to. -/
def LeadsTo (c : Context) (path : Bytes) (n : Node) : Prop :=
  ∃ i entry, c.machine.tree.walk true c.self.directory path = .ok (.occupied i entry) ∧
    c.machine.tree.node? i = some n

/-- There is nothing at a path, though the way to it is there, or the way itself is missing. -/
def Absent (c : Context) (path : Bytes) : Prop :=
  c.machine.tree.walk true c.self.directory path = .error .noEntry ∨
    ∃ directory name,
      c.machine.tree.walk true c.self.directory path = .ok (.vacant directory name)

/-- **What reading a path comes to.** -/
structure Finds (c : Context) (path : Bytes) (found : Except IoError Bytes) : Prop where
  /-- No call is made with a NUL byte. -/
  nul : 0 ∈ path → found = .error .nulInPath
  /-- There is no number for one more open file. -/
  crowded : 0 ∉ path → c.self.limit ≤ c.self.descriptors.lowestFree →
    found = .error (.call .tooManyOpen)
  /-- There is nothing to read. -/
  absent : Ready c path → Absent c path → found = .error (.call .noEntry)
  /-- The way cannot be gone. -/
  lost : Ready c path → ∀ e, c.machine.tree.walk true c.self.directory path = .error e →
    found = .error (.call e)
  /-- A file or a directory may not be read. -/
  denied : Ready c path → ∀ n, LeadsTo c path n → n.permissions.allows .read = false →
    n.isDirectory = true ∨ (∃ content, n.kind = .file content) →
    found = .error (.call .accessDenied)
  /-- A directory has no contents. -/
  directory : Ready c path → ∀ n, LeadsTo c path n → n.permissions.allows .read = true →
    n.isDirectory = true → found = .error (.call .isDirectory)
  /-- A file has its contents. -/
  file : Ready c path → ∀ n, LeadsTo c path n → n.permissions.allows .read = true →
    ∀ content, n.kind = .file content → found = .ok content

/-- Files and directories are opened if they may be read. -/
theorem openPath_of_leadsTo {n : Node} (h : LeadsTo c path n)
    (hkind : n.isDirectory = true ∨ ∃ content, n.kind = .file content) :
    ∃ i, c.machine.tree.node? i = some n ∧ Call.openPath c path readMode =
      if n.permissions.allows .read then .ok (c.machine.tree, .node i)
      else .error .accessDenied := by
  obtain ⟨i, entry, hwalk, hnode⟩ := h
  refine ⟨i, hnode, ?_⟩
  -- Both kinds that may be read ask for the read bit and nothing else.
  have hopen : Call.openNode c.machine.tree i readMode =
      if n.permissions.allows .read then .ok (c.machine.tree, .node i)
      else .error .accessDenied := by
    obtain ⟨kind, permissions⟩ := n
    have hpermits : Call.permits ⟨kind, permissions⟩ readMode = permissions.allows .read :=
      Bool.and_true _
    unfold Call.openNode
    rw [hnode]
    cases kind with
    | directory entries parent reachable =>
      dsimp only
      rw [hpermits]
      rfl
    | file content =>
      dsimp only
      rw [hpermits]
      cases permissions.allows .read <;> rfl
    | link target => simp [Node.isDirectory] at hkind
    | program name => simp [Node.isDirectory] at hkind
    | device d => simp [Node.isDirectory] at hkind
  have hmode : readMode.create = false := rfl
  unfold Call.openPath
  rw [hmode, Bool.false_and, if_neg Bool.false_ne_true, hwalk]
  dsimp only
  rw [hnode, Option.map_some]
  -- A device that names a descriptor is neither a file nor a directory.
  split
  · rename_i number hdevice
    have hdevice := Option.some.inj hdevice
    simp [Node.isDirectory, hdevice] at hkind
  · exact hopen

/-- What is ahead of a description that has just been opened is all that the node holds. -/
theorem ahead_reading {i : Inode} {n : Node} (hnode : c.machine.tree.node? i = some n) :
    (n.isDirectory = true →
      (c.opening [reading (.node i)]).machine.ahead c.machine.descriptions.length =
        .error .isDirectory) ∧
    ∀ content, n.kind = .file content →
      (c.opening [reading (.node i)]).machine.ahead c.machine.descriptions.length =
        .ok (.finite content) := by
  -- The description is the one behind those that were there.
  have hdescription : (c.opening [reading (.node i)]).machine.description?
      c.machine.descriptions.length = some (reading (.node i)) := by
    unfold Context.opening Machine.description?
    simp
  have htree : ∀ opened, (c.opening opened).machine.tree.node? i = some n := fun _ => hnode
  obtain ⟨kind, permissions⟩ := n
  unfold Machine.ahead
  rw [hdescription]
  dsimp only [reading]
  rw [htree]
  refine ⟨fun hdirectory => ?_, fun content hkind => ?_⟩
  · cases kind with
    | directory entries parent reachable => rfl
    | _ => simp [Node.isDirectory] at hdirectory
  · cases hkind
    rfl

/-- **Reading a path comes to what is there.** -/
theorem finds_readFile (c : Context) (path : Bytes) : Finds c path ((readFile path).run c).1 := by
  have hrefused : ∀ {e : Errno}, Ready c path → Call.openPath c path readMode = .error e →
      ((readFile path).run c).1 = .error (.call e) :=
    fun hready hopen => by rw [readFile_refused hready hopen]
  -- An error on the way to the file is the error of opening it.
  have hlost : ∀ {e : Errno}, c.machine.tree.walk true c.self.directory path = .error e →
      Call.openPath c path readMode = .error e := by
    intro e hwalk
    have hmode : readMode.create = false := rfl
    unfold Call.openPath
    rw [hmode, Bool.false_and, if_neg Bool.false_ne_true, hwalk]
  refine ⟨fun h => ?_, fun h hfull => ?_, fun hready habsent => ?_, fun hready e hwalk => ?_,
    fun hready n hleads hdenied hkind => ?_, fun hready n hleads hallowed hkind => ?_,
    fun hready n hleads hallowed content hkind => ?_⟩
  -- One case for each thing that can be at the path.
  · rw [readFile_nul h]
  · rw [readFile_crowded h hfull]
  · refine hrefused hready ?_
    rcases habsent with hwalk | ⟨directory, name, hwalk⟩
    · exact hlost hwalk
    · have hmode : readMode.create = false := rfl
      unfold Call.openPath
      rw [hmode, Bool.false_and, if_neg Bool.false_ne_true, hwalk]
      rfl
  · exact hrefused hready (hlost hwalk)
  · obtain ⟨i, -, hopen⟩ := openPath_of_leadsTo hleads hkind
    rw [hdenied, if_neg Bool.false_ne_true] at hopen
    exact hrefused hready hopen
  · obtain ⟨i, hnode, hopen⟩ := openPath_of_leadsTo hleads (.inl hkind)
    rw [hallowed, if_pos rfl] at hopen
    rw [readFile_opened hready hopen, (ahead_reading hnode).1 hkind]
    rfl
  · obtain ⟨i, hnode, hopen⟩ := openPath_of_leadsTo hleads (.inr ⟨content, hkind⟩)
    rw [hallowed, if_pos rfl] at hopen
    rw [readFile_opened hready hopen, (ahead_reading hnode).2 content hkind]
    rfl

/-! ### What is made of it -/

variable {read : Toml.Reader} {base : Configuration} {found : Except IoError Bytes}
  {result : Except LoadError Configuration}

/-- **What is made of what a path holds.** -/
inductive Settles (read : Toml.Reader) (base : Configuration) (path : Bytes) :
    Except IoError Bytes → Except LoadError Configuration → Prop
  /-- Without a file the settings are the defaults. -/
  | absent : Settles read base path (.error (.call .noEntry)) (.ok base)
  /-- What cannot be read for another reason is an error. -/
  | unreadable {e : IoError} (h : e ≠ .call .noEntry) :
    Settles read base path (.error e) (.error (.unreadable path e))
  /-- So is what is not text. -/
  | notText {bytes : Bytes} (h : ∀ t : Text, bytes ≠ t.bytes) :
    Settles read base path (.ok bytes) (.error (.unreadable path .notUtf8))
  /-- So is a text that is no document. -/
  | malformed {t : Text} {fault : Toml.Fault} (h : read t = .error fault) :
    Settles read base path (.ok t.bytes) (.error (.invalid path (fault.complaint.shown t)))
  /-- So is a document with an item of a wrong type under a known key. -/
  | mistyped {t : Text} {d : Toml.Document} (h : read t = .ok d) (hmistyped : Mistyped d) :
    Settles read base path (.ok t.bytes) (.error (.invalid path ((complaintOf d).shown t)))
  /-- Any other document fills the settings. -/
  | filled {t : Text} {d : Toml.Document} {c : Configuration} (h : read t = .ok d)
      (hfills : Fills base d c) : Settles read base path (.ok t.bytes) (.ok c)

/-- What loading makes of what it finds. -/
def settled (read : Toml.Reader) (base : Configuration) (path : Bytes) :
    Except IoError Bytes → Except LoadError Configuration
  | .error e => if e = .call .noEntry then .ok base else .error (.unreadable path e)
  | .ok bytes =>
    match Text.Utf8.decode? bytes with
    | none => .error (.unreadable path .notUtf8)
    | some t =>
      match ofText read base t with
      | .ok c => .ok c
      | .error complaint => .error (.invalid path (complaint.shown t))

theorem settled_of_settles (h : Settles read base path found result) :
    settled read base path found = result := by
  -- A text is what its own bytes are decoded to.
  have hdecode : ∀ t : Text, Text.Utf8.decode? t.bytes = some t :=
    fun t => Text.Utf8.decode?_eq_some_iff.2 rfl
  unfold settled ofText
  cases h with
  | absent => rfl
  | unreadable h =>
    dsimp only
    rw [if_neg h]
  | @notText bytes h =>
    cases hbytes : Text.Utf8.decode? bytes with
    | none => dsimp only; rw [hbytes]
    | some t => exact absurd (Text.Utf8.decode?_eq_some_iff.1 hbytes) (h t)
  | malformed h =>
    dsimp only
    rw [hdecode]
    dsimp only
    rw [h]
  | mistyped h hmistyped =>
    dsimp only
    rw [hdecode]
    dsimp only
    rw [h]
    dsimp only
    rw [ofDocument?_eq_none_iff.2 hmistyped]
  | filled h hfills =>
    dsimp only
    rw [hdecode]
    dsimp only
    rw [h]
    dsimp only
    rw [ofDocument?_eq_some_iff.2 hfills]

theorem settles_settled (read : Toml.Reader) (base : Configuration) (path : Bytes)
    (found : Except IoError Bytes) :
    Settles read base path found (settled read base path found) := by
  -- One of the six cases is given, and by the lemma above its result is the computed one.
  have hexists : ∃ result, Settles read base path found result := by
    cases found with
    | error e =>
      by_cases he : e = .call .noEntry
      · subst he
        exact ⟨_, .absent⟩
      · exact ⟨_, .unreadable he⟩
    | ok bytes =>
      by_cases htext : ∃ t : Text, bytes = t.bytes
      · obtain ⟨t, rfl⟩ := htext
        cases hdocument : read t with
        | error fault => exact ⟨_, .malformed hdocument⟩
        | ok d =>
          by_cases hmistyped : Mistyped d
          · exact ⟨_, .mistyped hdocument hmistyped⟩
          · obtain ⟨c, hc⟩ : ∃ c, Fills base d c := exists_fills_iff.2 hmistyped
            exact ⟨_, .filled hdocument hc⟩
      · exact ⟨_, .notText fun t ht => htext ⟨t, ht⟩⟩
  obtain ⟨result, h⟩ := hexists
  rwa [settled_of_settles h]

/-- **What is found decides the settings.** -/
theorem settles_iff :
    Settles read base path found result ↔ settled read base path found = result := by
  constructor
  · exact settled_of_settles
  · rintro rfl
    exact settles_settled read base path found

/-! ### Loading -/

/-- **Loading makes of a file what its contents say**, and changes nothing else. -/
theorem run_load (read : Toml.Reader) (path : Bytes) (w : World) :
    ∃ opened, (load read path).run w =
      (settled read (standard w.directories w.self.environment) path
        ((readFile path).run w.toContext).1, w.opening opened) := by
  obtain ⟨opened, hopened⟩ := readFile_opening path w.toContext
  refine ⟨opened, ?_⟩
  -- Reading a text is reading a file and decoding what was found.
  have htext : (readText path).run w.toContext =
      (((readFile path).run w.toContext).1.bind fun bytes =>
        (Text.Utf8.decode? bytes).elim (.error .notUtf8) .ok, w.toContext.opening opened) := by
    unfold readText
    rw [run_bind, ← hopened]
    rcases (readFile path).run w.toContext with ⟨e | bytes, after⟩
    · rfl
    · dsimp only [Except.bind]
      cases Text.Utf8.decode? bytes <;> rfl
  unfold load settled
  rw [run_bind, Proc.run_directories, run_bind, Proc.run_self, run_bind, Proc.run_call, htext]
  rcases ((readFile path).run w.toContext).1 with e | bytes
  · dsimp only [Except.bind]
    split <;> rfl
  · dsimp only [Except.bind]
    cases Text.Utf8.decode? bytes with
    | none => rfl
    | some t =>
      dsimp only [Option.elim]
      cases ofText read (standard w.directories w.self.environment) t <;> rfl

/-! ### Defaults -/

variable {account : Option Bytes} {env : Environment}

/-- The directory for the data of all programs, by the usual lookup. -/
inductive DataHome (account : Option Bytes) (env : Environment) : Option Bytes → Prop
  /-- A variable names it, by an absolute path. -/
  | variable {directory : Bytes} (h : env.lookup? (Text.lit "XDG_DATA_HOME") = some directory)
      (habsolute : Path.isAbsolute directory = true) : DataHome account env (some directory)
  /-- Otherwise it lies in the home directory, if there is one. -/
  | home (h : ∀ directory, env.lookup? (Text.lit "XDG_DATA_HOME") = some directory →
        Path.isAbsolute directory = false) :
      DataHome account env
        ((Directories.homeOf account env).map (Path.join · (bytesOf ".local/share")))

theorem dataHome_standard (account : Option Bytes) (env : Environment) :
    DataHome account env ((Directories.standard account).data env) := by
  show DataHome account env (Directories.baseOf account _ _ env)
  unfold Directories.baseOf
  cases hget : env.lookup? (Text.lit "XDG_DATA_HOME") with
  | none => exact .home fun directory h => nomatch hget.symm.trans h
  | some directory =>
    dsimp only
    split
    · rename_i habsolute
      exact .variable hget habsolute
    · rename_i hrelative
      refine .home fun directory' h => ?_
      obtain rfl := Option.some.inj (hget.symm.trans h)
      exact Bool.eq_false_iff.2 hrelative

theorem exists_join_eq (directory name : Bytes) :
    ∃ front, Path.join directory name = front ++ name := by
  unfold Path.join
  split
  · exact ⟨[], rfl⟩
  split
  · exact ⟨directory, rfl⟩
  · exact ⟨directory ++ [Path.slash], by rw [List.append_assoc]; rfl⟩

/-- **The history and the log lie in the directory for data.** -/
theorem standard_files (directories : Directories) (env : Environment) :
    (standard directories env).historyFile =
      dataDirectory directories env ++ bytesOf "/history" ∧
    (standard directories env).logFile = dataDirectory directories env ++ bytesOf "/bosh.log" := by
  obtain ⟨front, hfront⟩ : ∃ front, dataDirectory directories env = front ++ bytesOf "bosh" :=
    exists_join_eq _ _
  -- A slash is put between the directory and a name in it, whatever the directory is.
  have hjoin : ∀ name, Path.isAbsolute name = false →
      Path.join (dataDirectory directories env) name =
        dataDirectory directories env ++ Path.slash :: name := by
    intro name hname
    have hslash : Path.endsInSlash (dataDirectory directories env) = false := by
      rw [hfront, Path.endsInSlash, List.getLast?_append]
      rfl
    have hne : (dataDirectory directories env).isEmpty = false := by
      rw [hfront, List.isEmpty_eq_false_iff]
      exact List.append_ne_nil_of_right_ne_nil _ (by decide)
    unfold Path.join
    rw [hname, hslash, hne]
    rfl
  exact ⟨hjoin (bytesOf "history") rfl, hjoin (bytesOf "bosh.log") rfl⟩

/-! ### Startup -/

/-- The error output is the console. -/
def ShowsErrors (w : World) : Prop :=
  ∃ handle d, Table.get? 2 w.self.descriptors = some handle ∧
    w.machine.description? handle.description = some d ∧ d.channel = .console .err ∧
    d.writable = true

/-- What is said when the defaults are used for want of a file that can be used. -/
def report (e : LoadError) : Text := Text.lit "bosh: " ++ e.full ++ Text.lit ", using defaults\n"

/-- The world in which that has been said. -/
def reporting (w : World) (e : LoadError) : World :=
  { w with machine := w.machine.written w.self.descriptors 2 (report e).bytes }

theorem reporting_err {w : World} (h : ShowsErrors w) (opened : List Description) (e : LoadError) :
    (reporting (w.opening opened) e).machine.err = w.machine.err ++ (report e).bytes := by
  obtain ⟨handle, d, hget, hdescription, hchannel, hwritable⟩ := h
  have hopened : (w.opening opened).machine.description? handle.description = some d := by
    obtain ⟨hlt, -⟩ := List.getElem?_eq_some_iff.1 hdescription
    exact (List.getElem?_append_left hlt).trans hdescription
  have hget' : Table.get? 2 (w.opening opened).self.descriptors = some handle := hget
  unfold reporting Machine.written
  dsimp only
  rw [hget']
  dsimp only
  unfold Machine.writeTo
  rw [hopened]
  dsimp only
  rw [hwritable, hchannel]
  rfl

theorem run_init (read : Toml.Reader) (path : Option Bytes) (w : World) :
    (init read path).run w =
      match (load read (path.getD (defaultFile w.directories w.self.environment))).run w with
      | (.ok c, after) => (c, after)
      | (.error e, after) =>
        (standard w.directories w.self.environment, reporting after e) := by
  unfold init
  rw [run_bind, Proc.run_directories, run_bind, Proc.run_self, run_bind]
  rcases (load read (path.getD (defaultFile w.directories w.self.environment))).run w with
    ⟨e | c, after⟩
  · dsimp only
    rw [run_bind, Proc.run_write]
    rfl
  · rfl

/-- **A file makes all of the settings or none of them.** What is at the path decides about what is
found there, and that decides the settings. They are the defaults if there is no file; a document
that is in order makes every setting by itself; and whatever else is found is an error. Then the
settings at the start are the defaults, with nothing of the file, and the error is reported;
otherwise nothing is. The defaults for the history and the log lie where the data of the user are,
as these are looked up. -/
theorem init_settles (read : Toml.Reader) (w : World) (path : Option Bytes) :
    let env := w.self.environment
    let base := standard w.directories env
    let file := path.getD (defaultFile w.directories env)
    let found := ((readFile file).run w.toContext).1
    let data := (w.directories.data env).getD (bytesOf ".")
    Finds w.toContext file found ∧
    (∃ result opened,
      (∀ r, Settles read base file found r ↔ r = result) ∧
      (load read file).run w = (result, w.opening opened) ∧
      (∀ c, result = .ok c → (init read path).run w = (c, w.opening opened)) ∧
      ∀ e, result = .error e →
        (init read path).run w = (base, reporting (w.opening opened) e) ∧
        (ShowsErrors w → (reporting (w.opening opened) e).machine.err =
          w.machine.err ++ (report e).bytes)) ∧
    (dataDirectory w.directories env = Path.join data (bytesOf "bosh") ∧
      base.historyFile = dataDirectory w.directories env ++ bytesOf "/history" ∧
      base.logFile = dataDirectory w.directories env ++ bytesOf "/bosh.log") ∧
    ∀ account, DataHome account env ((Directories.standard account).data env) := by
  intro env base file found data
  obtain ⟨opened, hload⟩ := run_load read file w
  have hinit := run_init read path w
  rw [hload] at hinit
  -- A given path takes the place of the default one, and the base is what the defaults say.
  refine ⟨finds_readFile w.toContext file, ⟨settled read base file found, opened, fun r => ?_,
    hload, fun c hc => ?_, fun e he => ⟨?_, fun hshows => reporting_err hshows opened e⟩⟩,
    ⟨rfl, standard_files w.directories env⟩, fun account => dataHome_standard account env⟩
  · rw [settles_iff, eq_comm]
  · rw [hinit, hc]
  · rw [hinit, he]

end Configuration

end LineShell
