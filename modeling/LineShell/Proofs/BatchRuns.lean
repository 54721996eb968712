import LineShell.Proofs.SessionLines
/-!
# Batch runs

A whole run is one fold from the left over the lines that it is given: the configured ones, and
behind them those that the source delivers (`Session.run_converse`). Each line moves the session
from one standing to the next, and none moves it any more behind a line that does not proceed.

What a source delivers may depend on the lines, since commands may read from where the shell does.
A given line and bytes at hand deliver what they hold, whatever is executed
(`Session.delivers_oneShot`, `Session.delivers_reader`), and a script behind a descriptor does so if
its lines leave it alone (`Session.delivers_script`).
-/

namespace LineShell

namespace Session

/-! ### The fold -/

/-- A line that a session is given: a configured one, or one that the source is read for. -/
inductive Given where
  | configured (line : Text)
  | read (line : Text)

namespace Given

def line : Given → Text
  | configured line | read line => line

/-- What introduces the report of its failure. -/
def introduction : Given → Text
  | configured _ => startupIntroduction
  | read _ => []

end Given

/-- How far a session has come. -/
structure Standing (σ : Type) where
  flow : Flow
  source : σ
  shell : Shell
  world : World

namespace Standing

variable {σ : Type} (next : σ → Proc (Except IoError Line × σ))

/-- A session before its first line. -/
def start (source : σ) (shell : Shell) (w : World) : Standing σ := ⟨.proceed, source, shell, w⟩

/-- The source has been read once. -/
def reading (s : Standing σ) : Standing σ :=
  { s with source := ((next s.source).run s.world).1.2, world := ((next s.source).run s.world).2 }

/-- What is done before a line is executed: the source is read for it, unless it is configured. -/
def before (s : Standing σ) : Given → Standing σ
  | .configured _ => s
  | .read _ => s.reading next

/-- A line has been executed. -/
def executing (s : Standing σ) (given : Given) : Standing σ :=
  let r := ((execute given.introduction given.line).run s.shell).run s.world
  { s with flow := r.1.1, shell := r.1.2, world := r.2 }

/-- A line has been taken; behind one that does not proceed no line is taken. -/
def take (s : Standing σ) (given : Given) : Standing σ :=
  match s.flow with
  | .proceed => (s.before next given).executing given
  | _ => s

/-- All lines have been taken, one after the other. -/
def run (s : Standing σ) (givens : List Given) : Standing σ := givens.foldl (take next) s

/-- The source has been read to its end, or to a failure, which is reported. -/
def closing (s : Standing σ) : Standing σ :=
  match s.flow, ((next s.source).run s.world).1.1 with
  | .proceed, .ok _ => s.reading next
  | .proceed, .error e =>
    let read := s.reading next
    { read with world := ((report (Text.lit "bosh: ") e.message).run read.world).2 }
  | _, _ => s

/-- What a computation that leaves a session there has returned. -/
def outcome (s : Standing σ) : ((Flow × σ) × Shell) × World :=
  (((s.flow, s.source), s.shell), s.world)

/-- The source gives these lines, one at each read, while they are executed, and then no more. -/
def Delivers : List Text → Standing σ → Prop
  | [], s => s.flow = .proceed → ((next s.source).run s.world).1.1 = .ok .eof ∨
    ∃ e, ((next s.source).run s.world).1.1 = .error e
  | line :: lines, s => s.flow = .proceed →
    ((next s.source).run s.world).1.1 = .ok (.text line) ∧
      Delivers lines (s.take next (.read line))

variable {next} {s : Standing σ}

theorem take_of_proceed (h : s.flow = .proceed) (given : Given) :
    s.take next given = (s.before next given).executing given := by
  unfold take
  rw [h]

theorem take_of_ended (h : s.flow ≠ .proceed) (given : Given) : s.take next given = s := by
  unfold take
  cases hflow : s.flow with
  | proceed => exact absurd hflow h
  | exit | replaced _ => rfl

/-- No line takes effect behind one that does not proceed. -/
theorem run_of_ended (h : s.flow ≠ .proceed) (givens : List Given) : s.run next givens = s := by
  induction givens with
  | nil => rfl
  | cons given givens ih =>
    show (s.take next given).run next givens = s
    rw [take_of_ended h, ih]

theorem run_append (givens more : List Given) :
    s.run next (givens ++ more) = (s.run next givens).run next more := List.foldl_append

theorem closing_of_ended (h : s.flow ≠ .proceed) : s.closing next = s := by
  unfold closing
  cases hflow : s.flow with
  | proceed => exact absurd hflow h
  | exit | replaced _ => rfl

variable (next) in
theorem source_run_configured (s : Standing σ) (lines : List Text) :
    (s.run next (lines.map .configured)).source = s.source := by
  induction lines generalizing s with
  | nil => rfl
  | cons line lines ih =>
    show ((s.take next (.configured line)).run next (lines.map .configured)).source = s.source
    rw [ih]
    unfold take
    cases s.flow <;> rfl

end Standing

/-! ### The two parts of the fold -/

open Standing

variable {σ : Type} {next : σ → Proc (Except IoError Line × σ)} {s : Standing σ}

variable (next) in
/-- The startup lines are the first part of the fold. -/
theorem run_runStartup (hflow : s.flow = .proceed) (lines : List Text) :
    ((runStartup lines).run s.shell).run s.world =
      let done := s.run next (lines.map .configured)
      ((done.flow, done.shell), done.world) := by
  induction lines generalizing s with
  | nil =>
    show ((.proceed, s.shell), s.world) = ((s.flow, s.shell), s.world)
    rw [hflow]
  | cons line lines ih =>
    unfold runStartup
    rw [runLine_eq, run_bind_run]
    show _ = let done := (s.take next (.configured line)).run next (lines.map .configured)
      ((done.flow, done.shell), done.world)
    -- Executing the line is the same on both sides, and its outcome decides about the rest.
    have hrun : ((execute startupIntroduction line).run s.shell).run s.world =
        let s' := (s.before next (.configured line)).executing (.configured line)
        ((s'.flow, s'.shell), s'.world) := rfl
    rw [take_of_proceed hflow, hrun]
    generalize (s.before next (.configured line)).executing (.configured line) = s'
    obtain ⟨flow, source, shell, world⟩ := s'
    cases flow with
    | proceed => exact ih (s := ⟨.proceed, source, shell, world⟩) rfl
    -- The lines behind one that ends the session are not taken.
    | exit | replaced image =>
      rw [run_of_ended (by simp)]
      rfl

/-- The lines of the source are the second. -/
theorem run_replOver_lines (hflow : s.flow = .proceed) {limit : Nat} {lines : List Text}
    (hlimit : lines.length < limit) (h : Delivers next lines s) :
    ((replOver next limit s.source).run s.shell).run s.world =
      ((s.run next (lines.map .read)).closing next).outcome := by
  -- By induction on the lines that are delivered; with none left the source is at its end or fails.
  induction lines generalizing s limit with
  | nil =>
    obtain ⟨limit, rfl⟩ : ∃ n, limit = n + 1 := ⟨limit - 1, by omega⟩
    obtain ⟨flow, source, shell, world⟩ := s
    cases hflow
    rw [run_replOver]
    show _ = (closing next ⟨.proceed, source, shell, world⟩).outcome
    unfold closing reading
    have hend := h rfl
    dsimp only at hend ⊢
    generalize (next source).run world = read at hend ⊢
    obtain ⟨⟨r, source'⟩, world'⟩ := read
    rcases hend with heof | ⟨e, herror⟩
    · cases heof
      rfl
    · cases herror
      rfl
  | cons line lines ih =>
    obtain ⟨limit, rfl⟩ : ∃ n, limit = n + 1 := ⟨limit - 1, by omega⟩
    obtain ⟨hline, hrest⟩ := h hflow
    rw [take_of_proceed hflow] at hrest
    rw [run_replOver]
    show ((answer _ (((next s.source).run s.world).1.1, (s.reading next).source)).run s.shell).run
      (s.reading next).world =
        (((s.take next (.read line)).run next (lines.map .read)).closing next).outcome
    have hrun : ((execute [] line).run s.shell).run (s.reading next).world =
        let s' := (s.before next (.read line)).executing (.read line)
        ((s'.flow, s'.shell), s'.world) := rfl
    -- Executing a line leaves the source where reading the line has moved it.
    have hsource : (s.reading next).source =
      ((s.before next (.read line)).executing (.read line)).source := rfl
    rw [hline, run_answer_text, take_of_proceed hflow, hrun, hsource]
    generalize (s.before next (.read line)).executing (.read line) = s' at hrest ⊢
    obtain ⟨flow, source, shell, world⟩ := s'
    cases flow with
    | proceed => exact ih rfl (by simpa using hlimit) hrest
    | exit | replaced image =>
      rw [run_of_ended (by simp), closing_of_ended (by simp)]
      rfl

/-! ### The whole run -/

/-- How a run ends that a line has ended, or that has come to the end of the source. -/
def Ending.of : Flow → Ending
  | .replaced image => .replaced image
  | .proceed | .exit => .exited 0

/-- What the log is told at the end: nothing when a startup line has ended the run already, or when
the shell has become another program. -/
def farewell (started done : Flow) : List Log.Record :=
  match started, done with
  | .proceed, .proceed | .proceed, .exit => [sessionRecord "session ended" []]
  | _, _ => []

/-- **A run is the fold over the startup lines and those of the source.** -/
theorem run_converse (c : Configuration) {limit : Nat} (source : Source) (shell : Shell) (w : World)
    {lines : List Text} (hlimit : lines.length < limit)
    (h : Delivers Source.next lines
      ((start source shell w).run Source.next (c.startup.map .configured))) :
    ((converse c limit source).run shell).run w =
      let started := (start source shell w).run Source.next (c.startup.map .configured)
      let done := ((start source shell w).run Source.next
        (c.startup.map .configured ++ lines.map .read)).closing Source.next
      (((Ending.of done.flow, done.source), done.shell),
        done.world.noting (farewell started.flow done.flow)) := by
  have hstartup : ((runStartup c.startup).run shell).run w = _ :=
    run_runStartup Source.next (s := start source shell w) rfl c.startup
  -- Startup lines are not read, so that the source is still at its beginning.
  have hsource := source_run_configured Source.next (start source shell w) c.startup
  dsimp only at hstartup ⊢
  rw [Standing.run_append]
  generalize (start source shell w).run Source.next (c.startup.map .configured) = started at *
  unfold converse
  rw [run_bind_run]
  obtain ⟨flow, source', shell', w'⟩ := started
  cases hsource
  rw [hstartup]
  cases flow with
  | proceed =>
    have hrepl := run_replOver_lines rfl hlimit h
    dsimp only at hrepl ⊢
    rw [run_bind_run, repl_eq, hrepl]
    generalize (Standing.run Source.next ⟨.proceed, source, shell', w'⟩
      (lines.map .read)).closing Source.next = done
    obtain ⟨flow, source'', shell'', w''⟩ := done
    cases flow with
    | replaced image => rfl
    | proceed | exit =>
      show (((Ending.exited 0, source''), shell''),
        ((Proc.log (sessionRecord "session ended" [])).run w'').2) = _
      rw [Proc.run_log]
      rfl
  -- The session is over before the source is asked for a line.
  | exit | replaced image =>
    rw [run_of_ended (by simp), closing_of_ended (by simp)]
    rfl

/-! ### What sources deliver -/

theorem delivers_oneShot {s : Standing Source} {line : Text}
    (h : s.source = .oneShot (some line)) : Delivers Source.next [line] s := by
  obtain ⟨flow, source, shell, world⟩ := s
  cases h
  intro hflow
  cases hflow
  exact ⟨rfl, fun _ => .inl rfl⟩

/-- What a source holds stays while the lines, each read before, are executed. -/
def Keeps (next : σ → Proc (Except IoError Line × σ)) (Holds : Bytes → σ → World → Prop) :
    List Text → Standing σ → Prop
  | [], _ => True
  | line :: lines, s => s.flow = .proceed →
    (∀ rest, Holds rest (s.before next (.read line)).source (s.before next (.read line)).world →
      Holds rest (s.take next (.read line)).source (s.take next (.read line)).world) ∧
    Keeps next Holds lines (s.take next (.read line))

/-- A source delivers the lines of the bytes that it holds, if each read takes one of them and they
stay while lines are executed. -/
theorem delivers_of_holds {Holds : Bytes → σ → World → Prop}
    (hread : ∀ rest source w, Holds rest source w →
      ((next source).run w).1.1 = .ok (ScriptLines.ofRaw (ScriptLines.cutLine rest).1) ∧
      Holds ((ScriptLines.cutLine rest).2.getD []) ((next source).run w).1.2
        ((next source).run w).2)
    {rest : Bytes} (hkeeps : Keeps next Holds ((rawLines rest).map ScriptLines.lineText) s)
    (h : Holds rest s.source s.world) :
    Delivers next ((rawLines rest).map ScriptLines.lineText) s := by
  -- By induction on the raw lines, each of which is one line feed further.
  induction hraws : rawLines rest generalizing rest s with
  | nil =>
    have hrest : rest = [] := by rw [← rawLines_flatten rest, hraws]; rfl
    subst hrest
    exact fun _ => .inl (hread _ _ _ h).1
  | cons raw raws ih =>
    -- Something is left, and so the next read is not the end.
    have hrest : rest ≠ [] := by
      rintro rfl
      cases hraws
    obtain ⟨hgiven, hholds⟩ := hread _ _ _ h
    rw [hraws] at hkeeps
    rw [ScriptLines.rawLines_eq_cons hrest] at hraws
    obtain ⟨rfl, htail⟩ := List.cons.inj hraws
    intro hflow
    obtain ⟨hkeep, hkeeps⟩ := hkeeps hflow
    refine ⟨?_, ?_⟩
    · rw [hgiven, ScriptLines.ofRaw, if_neg (by simpa using ScriptLines.cutLine_ne_nil hrest)]
    · rw [← htail] at hkeeps
      exact ih hkeeps (hkeep _ hholds) htail

theorem keeps_of_executing {Holds : Bytes → σ → World → Prop}
    (h : ∀ rest source w w', Holds rest source w → Holds rest source w') (lines : List Text)
    (s : Standing σ) : Keeps next Holds lines s := by
  induction lines generalizing s with
  | nil => trivial
  | cons line lines ih =>
    intro hflow
    refine ⟨fun rest hholds => ?_, ih _⟩
    rw [take_of_proceed hflow]
    exact h _ _ _ _ hholds

/-- **Bytes at hand deliver their lines**, whatever these do. -/
theorem delivers_reader (s : Standing Reader) :
    Delivers readerNext ((rawLines s.source.rest).map ScriptLines.lineText) s := by
  let Holds (rest : Bytes) (r : Reader) (_ : World) : Prop := r.rest = rest
  have hread : ∀ rest r w, Holds rest r w →
      ((readerNext r).run w).1.1 = .ok (ScriptLines.ofRaw (ScriptLines.cutLine rest).1) ∧
      Holds ((ScriptLines.cutLine rest).2.getD []) ((readerNext r).run w).1.2
        ((readerNext r).run w).2 := by
    rintro rest r w rfl
    obtain ⟨r', hnext, hrest, -⟩ := r.next_eq
    unfold readerNext
    rw [hnext]
    exact ⟨rfl, hrest⟩
  exact delivers_of_holds hread (keeps_of_executing (fun _ _ _ _ h => h) _ s) rfl

/-- A script at hand is run as the fold over its lines. -/
theorem run_replOver_reader (bytes : Bytes) (capacity : Nat) {limit : Nat} (shell : Shell)
    (w : World) (hlimit : (rawLines bytes).length < limit) :
    ((replOver readerNext limit (Reader.ofBytes capacity bytes)).run shell).run w =
      (((start (Reader.ofBytes capacity bytes) shell w).run readerNext
        (((rawLines bytes).map ScriptLines.lineText).map .read)).closing readerNext).outcome := by
  have hdelivers := delivers_reader (start (Reader.ofBytes capacity bytes) shell w)
  refine run_replOver_lines rfl ?_ hdelivers
  rw [List.length_map]
  exact hlimit

/-- The bytes that are left of a script, in its buffer and ahead of its descriptor. -/
def ScriptHolds (descriptor : Nat) (rest : Bytes) (source : Source) (w : World) : Prop :=
  ∃ buffered unread, source = .script descriptor buffered ∧ w.Ahead descriptor unread ∧
    buffered ++ unread = rest

/-- **A script behind a descriptor delivers its lines**, if these leave it alone. -/
theorem delivers_script {s : Standing Source} {descriptor : Nat} {rest : Bytes}
    (h : ScriptHolds descriptor rest s.source s.world)
    (hkeeps : Keeps Source.next (ScriptHolds descriptor)
      ((rawLines rest).map ScriptLines.lineText) s) :
    Delivers Source.next ((rawLines rest).map ScriptLines.lineText) s := by
  refine delivers_of_holds ?_ hkeeps h
  rintro rest source w ⟨buffered, unread, rfl, hahead, rfl⟩
  obtain ⟨r, hnext, hrest, -⟩ := Reader.next_eq ⟨Source.bufferSize, buffered, unread⟩
  obtain ⟨n, -, hunread, hrun⟩ := Source.next_script hahead hnext
  rw [hrun]
  exact ⟨rfl, r.buffered, _, rfl, hahead.past n, hunread ▸ hrest⟩

/-! ### What a line does to the fold -/

/-- **A line ends the run exactly if its execution answers so.** -/
theorem flow_take_iff (h : s.flow = .proceed) (given : Given) {flow : Flow}
    (hflow : flow ≠ .proceed) :
    (s.take next given).flow = flow ↔
      (((Shell.exec given.line).start s.shell).run (s.before next given).world).1.1 = .ok flow := by
  have hshell : (s.before next given).shell = s.shell := by cases given <;> rfl
  rw [take_of_proceed h]
  show (((execute given.introduction given.line).run (s.before next given).shell).run
    (s.before next given).world).1.1 = flow ↔ _
  rw [run_execute, hshell]
  rcases ((Shell.exec given.line).start s.shell).run (s.before next given).world with
    ⟨⟨e | answered, shell⟩, w⟩
  · exact ⟨fun heq => absurd heq.symm hflow, nofun⟩
  · exact ⟨fun heq => congrArg Except.ok heq, fun heq => Except.ok.inj heq⟩

/-- **A failed line is reported in one message**, and the run goes on. -/
theorem take_of_failed (h : s.flow = .proceed) (given : Given) {e : ShellError} {shell' : Shell}
    {w' : World} (hexec : ((Shell.exec given.line).start s.shell).run (s.before next given).world =
      ((.error e, shell'), w')) :
    s.take next given = ⟨.proceed, (s.before next given).source, shell',
      ((Proc.write 2 (given.introduction ++ e.message ++ ['\n'])).run w').2⟩ := by
  have hshell : (s.before next given).shell = s.shell := by cases given <;> rfl
  rw [take_of_proceed h, executing, run_execute, hshell, hexec]
  rfl

/-! ### All together -/

/-- **A batch run is one fold of executions from the left.**

* The run takes the startup lines and then those that the source delivers: the lines of a script at
  hand, the given line, or the lines of a script behind a descriptor, if they leave it alone.
* No line takes effect behind one that has made the shell exit or another program.
* A line asks to exit exactly if it has a plan whose leading command is `exit`.
* A failed line is reported in one message, and the run goes on.
* A line of nothing but blanks does nothing.
* A line without a line feed comes to the same as a startup line, as the given line, and as a
  script, at hand or behind a descriptor, with or without a line feed at its end. -/
theorem batch_run :
    (∀ (c : Configuration) (limit : Nat) (source : Source) (shell : Shell) (w : World)
        (lines : List Text),
      let started := (start source shell w).run Source.next (c.startup.map .configured)
      let done := ((start source shell w).run Source.next
        (c.startup.map .configured ++ lines.map .read)).closing Source.next
      lines.length < limit → Delivers Source.next lines started →
      ((converse c limit source).run shell).run w =
        (((Ending.of done.flow, done.source), done.shell),
          done.world.noting (farewell started.flow done.flow))) ∧
    (∀ (bytes : Bytes) (capacity limit : Nat) (shell : Shell) (w : World),
      (rawLines bytes).length < limit →
      ((replOver readerNext limit (Reader.ofBytes capacity bytes)).run shell).run w =
        (((start (Reader.ofBytes capacity bytes) shell w).run readerNext
          (((rawLines bytes).map ScriptLines.lineText).map .read)).closing readerNext).outcome) ∧
    (∀ (s : Standing Source) (line : Text), s.source = .oneShot (some line) →
      Delivers Source.next [line] s) ∧
    (∀ (s : Standing Source) (descriptor : Nat) (rest : Bytes),
      let lines := (rawLines rest).map ScriptLines.lineText
      ScriptHolds descriptor rest s.source s.world →
      Keeps Source.next (ScriptHolds descriptor) lines s → Delivers Source.next lines s) ∧
    (∀ (s : Standing Source) (given : Given) (flow : Flow), s.flow = .proceed → flow ≠ .proceed →
      ((s.take Source.next given).flow = flow ↔
        (((Shell.exec given.line).start s.shell).run (s.before Source.next given).world).1.1 =
          .ok flow) ∧
      ((s.take Source.next given).flow = flow → ∀ givens,
        s.run Source.next (given :: givens) = s.take Source.next given)) ∧
    (∀ (line : Text) (shell : Shell) (w : World),
      (((Shell.exec line).start shell).run w).1.1 = .ok .exit ↔
        ∃ p, (Shell.planned shell w line).outcome = .ok (some p) ∧
          p.leading.command? = some (Text.lit "exit")) ∧
    (∀ (s : Standing Source) (given : Given) (e : ShellError) (shell' : Shell) (w' : World),
      s.flow = .proceed →
      ((Shell.exec given.line).start s.shell).run (s.before Source.next given).world =
        ((.error e, shell'), w') →
      s.take Source.next given = ⟨.proceed, (s.before Source.next given).source, shell',
        ((Proc.write 2 (given.introduction ++ e.message ++ ['\n'])).run w').2⟩) ∧
    (∀ (line : Text) (shell : Shell) (w : World), Text.isAllBlank line = true →
      ((Shell.exec line).start shell).run w = ((.ok .proceed, shell), w)) ∧
    ∀ (line : Text) (ending : Bytes) (limit capacity : Nat), '\n' ∉ line →
      ScriptLines.IsEnding ending →
      runStartup [line] = execute startupIntroduction line ∧
      repl (limit + 2) (.oneShot (some line)) = (·, .oneShot none) <$> execute [] line ∧
      replOver readerNext (limit + 2) (Reader.ofBytes capacity (line.bytes ++ ending)) =
        (·, Reader.ofBytes capacity []) <$> execute [] line ∧
      ∀ (descriptor : Nat) (shell : Shell) (w : World),
        let w' := w.past descriptor (line.bytes ++ ending).length
        let r := ((execute [] line).run shell).run w'
        w.Ahead descriptor (line.bytes ++ ending) →
        (r.1.1 = .proceed → r.2.Ahead descriptor []) →
        ((repl (limit + 2) (.script descriptor [])).run shell).run w =
          (((·, .script descriptor []) <$> execute [] line).run shell).run w' := by
  refine ⟨?_, fun bytes capacity limit => run_replOver_reader bytes capacity,
    fun s line => delivers_oneShot, fun s descriptor rest => delivers_script, ?_,
    Shell.exec_exit_iff, ?_, ?_, ?_⟩
  · intro c limit source shell w lines started done hlimit hdelivers
    exact run_converse c source shell w hlimit hdelivers
  · intro s given flow hproceed hflow
    refine ⟨flow_take_iff hproceed given hflow, fun htake givens => run_of_ended ?_ givens⟩
    rw [htake]
    exact hflow
  · exact fun s given e shell' w' hproceed => take_of_failed hproceed given
  · exact fun line shell w hblank =>
      Shell.start_exec_blank (Text.blanks_of_isAllBlank hblank) shell w
  · intro line ending limit capacity hline hending
    exact ⟨runStartup_singleton line, repl_oneShot limit line,
      replOver_reader limit hline hending capacity,
      fun descriptor shell w hahead hend =>
        run_repl_script limit hline hending hahead rfl shell hend⟩

/-- A startup line that fails and a script that fails once and then exits; and a script of one line
that ends in a carriage return. -/
theorem batch_run_scripted :
    let c := { Configuration.standard (.standard none) [] with startup := [Text.lit "cd"] }
    let r := ((converse c 9 (.script 0 [])).run ⟨[Path.slash], 2⟩).run
      (World.scripted (bytesOf "cd\nexit\r\ncd"))
    let single := ((repl 2 (.script 0 [])).run ⟨[Path.slash], 2⟩).run
      (World.scripted (bytesOf "cd\r\n"))
    r.1.1.1 = .exited 0 ∧
      r.2.machine.err = bytesOf "[X] Startup failed: cd: missing operand\ncd: missing operand\n" ∧
      single.2.machine.err = bytesOf "cd: missing operand\n" := by
  -- Nothing is asked of the third line, since the second one ends the session.
  have hdelivers : Delivers Source.next [Text.lit "cd", Text.lit "exit", Text.lit "cd"]
      ((start (.script 0 []) ⟨[Path.slash], 2⟩ (World.scripted (bytesOf "cd\nexit\r\ncd"))).run
        Source.next [.configured (Text.lit "cd")]) :=
    fun _ => ⟨rfl, fun _ => ⟨rfl, nofun⟩⟩
  have hahead : (World.scripted (bytesOf "cd\r\n")).Ahead 0 (Text.bytes ['c', 'd', '\r'] ++
      [lineFeed]) := ⟨⟨0, false⟩, rfl, rfl⟩
  obtain ⟨hruns, -, -, -, -, -, -, -, hways⟩ := batch_run
  have hrun := hruns
    { Configuration.standard (.standard none) [] with startup := [Text.lit "cd"] } 9
    (.script 0 []) ⟨[Path.slash], 2⟩ _ _ (by decide) hdelivers
  have hsingle := (hways ['c', 'd', '\r'] [lineFeed] 0 0 (by decide) (.inr rfl)).2.2.2 0
    ⟨[Path.slash], 2⟩ _ hahead (fun _ => ⟨⟨0, false⟩, rfl, rfl⟩)
  intro c r single
  have hr : r = _ := hrun
  have hs : single = _ := hsingle
  rw [hr, hs]
  exact ⟨rfl, rfl, rfl⟩

end Session

end LineShell
