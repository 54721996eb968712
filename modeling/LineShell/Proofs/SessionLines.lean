import LineShell.Proofs.ScriptReading
import LineShell.Session.Run
/-!
# One line of a session

A session skips lines of nothing but blanks, and reports those that fail. Skipping such a line is
executing it (`Session.runLine_eq`), so that a session executes every line that it is given
(`Session.execute`). A line asks to exit exactly if its leading command is `exit`
(`Shell.exec_exit_iff`).

A line comes to the same as a startup line (`Session.runStartup_singleton`), as the given line
(`Session.repl_oneShot`), and as a script, whose bytes are at hand (`Session.replOver_reader`) or
behind a descriptor (`Session.run_repl_script`).
-/

namespace LineShell

namespace Shell

/-! ### Exits -/

theorem start_run_exit_iff (p : Plan) (shell : Shell) (w : World) :
    (((run p).start shell).run w).1.1 = .ok .exit ↔
      p.leading.command? = some (Text.lit "exit") := by
  constructor
  · intro h
    cases hcommand : p.leading.command? with
    | none =>
      rw [start_run_none hcommand] at h
      cases h
    | some command =>
      by_cases hname : Builtin.IsName command
      · rcases hname with rfl | rfl | rfl | rfl
        · rfl
        -- No other built-in name ends the session, whatever comes of it.
        · rw [start_run_cd hcommand] at h
          rcases hcd : ((Builtin.cd (p.leading.arg? 1)).start shell).run w with ⟨⟨e | _, _⟩, _⟩ <;>
            rw [hcd] at h <;> cases h
        · rw [start_run_help hcommand] at h
          cases h
        · rw [start_run_exec hcommand] at h
          split at h
          · cases h
          · dsimp only at h
            cases hr : ((Execution.replaceImage (p.leading.shifted 1)).run w).1 <;>
              rw [hr] at h <;> cases h
      · rw [start_run_other hcommand hname] at h
        dsimp only at h
        generalize ((runPlan p).run (w.noting [dispatchRecord command .notBuiltin])).1 = r at h
        cases r <;> cases h
  · intro hcommand
    rw [start_run_exit hcommand]

/-- **A line asks to exit exactly if it has a plan whose leading command is `exit`.** -/
theorem exec_exit_iff (line : Text) (shell : Shell) (w : World) :
    (((exec line).start shell).run w).1.1 = .ok .exit ↔
      ∃ p, (planned shell w line).outcome = .ok (some p) ∧
        p.leading.command? = some (Text.lit "exit") := by
  rw [start_exec]
  dsimp only
  rcases (planned shell w line).outcome with e | _ | p
  · exact ⟨fun h => (by cases h), fun ⟨p, hp, _⟩ => (by cases hp)⟩
  · exact ⟨fun h => (by cases h), fun ⟨p, hp, _⟩ => (by cases hp)⟩
  · rw [start_run_exit_iff]
    constructor
    · exact fun h => ⟨p, rfl, h⟩
    · rintro ⟨q, hq, h⟩
      cases hq
      exact h

end Shell

namespace Session

/-! ### Executing a line -/

theorem run_bind_run {α β : Type} (x : StateT Shell Proc α) (f : α → StateT Shell Proc β)
    (shell : Shell) (w : World) :
    ((x >>= f).run shell).run w =
      ((f ((x.run shell).run w).1.1).run ((x.run shell).run w).1.2).run
        ((x.run shell).run w).2 := rfl

theorem run_map_run {α β : Type} (f : α → β) (x : StateT Shell Proc α) (shell : Shell)
    (w : World) :
    ((f <$> x).run shell).run w =
      ((f ((x.run shell).run w).1.1, ((x.run shell).run w).1.2), ((x.run shell).run w).2) := rfl

/-- Executes a line, whatever it holds; a failure is reported with an introduction. -/
def execute (introduction line : Text) : StateT Shell Proc Flow := do
  match ← (Shell.exec line).run with
  | .ok flow => return flow
  | .error e =>
    (report introduction e.message : Proc Unit)
    return .proceed

theorem run_execute (introduction line : Text) (shell : Shell) (w : World) :
    ((execute introduction line).run shell).run w =
      match ((Shell.exec line).start shell).run w with
      | ((.ok flow, shell), w) => ((flow, shell), w)
      | ((.error e, shell), w) => ((.proceed, shell), ((report introduction e.message).run w).2) := by
  show ((match (((Shell.exec line).start shell).run w).1.1 with
    | .ok flow => (return flow : StateT Shell Proc Flow)
    | .error e => do
      (report introduction e.message : Proc Unit)
      return .proceed).run (((Shell.exec line).start shell).run w).1.2).run
        (((Shell.exec line).start shell).run w).2 = _
  rcases ((Shell.exec line).start shell).run w with ⟨⟨_ | _, _⟩, _⟩ <;> rfl

/-- Blanks come to nothing. -/
theorem execute_blanks (introduction : Text) {b : Text} (h : Text.Blanks b) :
    execute introduction b = pure .proceed := by
  funext shell w
  have hrun := run_execute introduction b shell w
  rw [Shell.start_exec_blank h] at hrun
  exact hrun

/-- **Skipping a line of nothing but blanks is executing it.** -/
theorem runLine_eq (introduction line : Text) :
    runLine introduction line = execute introduction line := by
  unfold runLine
  split
  · rename_i hblank
    rw [execute_blanks introduction (Text.blanks_of_isAllBlank hblank)]
  · rfl

/-- Blanks at the end of a line make no difference. -/
theorem execute_append (introduction line : Text) {b : Text} (h : Text.Blanks b) :
    execute introduction (line ++ b) = execute introduction line := by
  unfold execute
  rw [Shell.exec_append line h]

/-! ### Reading line by line -/

section

variable {σ : Type}

/-- What a loop does with what it has read. -/
def answer (loop : σ → StateT Shell Proc (Flow × σ)) :
    Except IoError Line × σ → StateT Shell Proc (Flow × σ)
  | (.error e, source) => do
    (report (Text.lit "bosh: ") e.message : Proc Unit)
    return (.proceed, source)
  | (.ok .eof, source) => return (.proceed, source)
  | (.ok .interrupted, source) => do
    (Proc.log ⟨.debug, Text.lit "bosh", Text.lit "line discarded by interrupt", []⟩ : Proc Unit)
    loop source
  | (.ok (.text line), source) => do
    match ← execute [] line with
    | .proceed => loop source
    | flow => return (flow, source)

/-- The loop of a session over any source, given by what a read of it does. -/
def replOver (next : σ → Proc (Except IoError Line × σ)) :
    Nat → σ → StateT Shell Proc (Flow × σ)
  | 0, source => return (.proceed, source)
  | limit + 1, source => do answer (replOver next limit) (← next source)

theorem repl_eq (limit : Nat) : repl limit = replOver Source.next limit := by
  induction limit with
  | zero => rfl
  | succ limit ih =>
    funext source
    unfold repl replOver
    rw [ih]
    refine bind_congr fun r => ?_
    rcases r with ⟨_ | _ | _ | _, source⟩
    · rfl
    · dsimp only
      rw [runLine_eq]
      refine bind_congr fun flow => ?_
      cases flow <;> rfl
    · rfl
    · rfl

theorem run_replOver (next : σ → Proc (Except IoError Line × σ)) (limit : Nat) (source : σ)
    (shell : Shell) (w : World) :
    ((replOver next (limit + 1) source).run shell).run w =
      ((answer (replOver next limit) ((next source).run w).1).run shell).run
        ((next source).run w).2 := rfl

variable (loop : σ → StateT Shell Proc (Flow × σ)) (source : σ) (shell : Shell) (w : World)

theorem run_answer_text (line : Text) :
    ((answer loop (.ok (.text line), source)).run shell).run w =
      match ((execute [] line).run shell).run w with
      | ((.proceed, shell), w) => ((loop source).run shell).run w
      | ((flow, shell), w) => (((flow, source), shell), w) := by
  show ((match (((execute [] line).run shell).run w).1.1 with
    | .proceed => loop source
    | flow => return (flow, source)).run (((execute [] line).run shell).run w).1.2).run
      (((execute [] line).run shell).run w).2 = _
  rcases ((execute [] line).run shell).run w with ⟨⟨_ | _ | _, _⟩, _⟩ <;> rfl

end

/-! ### One line, three sources -/

/-- Bytes at hand as a source of lines. -/
def readerNext (r : Reader) : Proc (Except IoError Line × Reader) := return (.ok r.next.1, r.next.2)

section

variable {σ : Type} {next : σ → Proc (Except IoError Line × σ)} {source source' : σ}
  {w w' : World} {line : Text}

/-- A source that gives one line and no more has it executed. -/
theorem run_replOver_single (h : (next source).run w = ((.ok (.text line), source'), w'))
    (shell : Shell)
    (hend : (((execute [] line).run shell).run w').1.1 = .proceed →
      (next source').run (((execute [] line).run shell).run w').2 =
        ((.ok .eof, source'), (((execute [] line).run shell).run w').2)) (limit : Nat) :
    ((replOver next (limit + 2) source).run shell).run w =
      (((·, source') <$> execute [] line).run shell).run w' := by
  rw [run_replOver, h, run_answer_text, run_map_run]
  dsimp only
  generalize ((execute [] line).run shell).run w' = done at hend ⊢
  obtain ⟨⟨flow, shell'⟩, w''⟩ := done
  cases flow with
  | proceed =>
    dsimp only at hend ⊢
    rw [run_replOver, hend rfl]
    rfl
  | exit | replaced image => rfl

/-- A source that gives the one line of a script, and no more, has it executed. -/
theorem run_replOver_line {ending : Bytes} (hending : ScriptLines.IsEnding ending)
    (h : (next source).run w =
      ((.ok (ScriptLines.ofRaw (line.bytes ++ ending)), source'), w'))
    (shell : Shell)
    (hend : (((execute [] line).run shell).run w').1.1 = .proceed →
      (next source').run (((execute [] line).run shell).run w').2 =
        ((.ok .eof, source'), (((execute [] line).run shell).run w').2)) (limit : Nat) :
    ((replOver next (limit + 2) source).run shell).run w =
      (((·, source') <$> execute [] line).run shell).run w' := by
  obtain ⟨b, hb, hline⟩ := ScriptLines.lineText_bytes line hending
  -- Executing what was read of the line is executing the line.
  have hexecute : execute [] line = execute [] (ScriptLines.lineText (line.bytes ++ ending)) := by
    conv => lhs; rw [hline]
    exact execute_append [] _ hb
  rw [hexecute] at hend ⊢
  cases hraw : line.bytes ++ ending with
  | nil =>
    -- An empty script is at its end at once, and so is as good as a blank line.
    have hnone : execute [] (ScriptLines.lineText []) = pure .proceed :=
      execute_blanks [] Text.blanks_nil
    rw [hraw] at h
    rw [run_replOver, h, hnone]
    rfl
  | cons byte raw =>
    rw [hraw] at h hend
    exact run_replOver_single h shell hend limit

end

/-- A line as the only startup line. -/
theorem runStartup_singleton (line : Text) :
    runStartup [line] = execute startupIntroduction line := by
  unfold runStartup
  rw [runLine_eq]
  refine Eq.trans (bind_congr fun flow => ?_) (bind_pure _)
  cases flow <;> rfl

/-- A line as the given one. -/
theorem repl_oneShot (limit : Nat) (line : Text) :
    repl (limit + 2) (.oneShot (some line)) = (·, .oneShot none) <$> execute [] line := by
  funext shell w
  rw [repl_eq]
  exact run_replOver_single rfl shell (fun _ => rfl) limit

/-- A line as a script with its bytes at hand, with or without a line feed at its end. -/
theorem replOver_reader (limit : Nat) {line : Text} (h : '\n' ∉ line) {ending : Bytes}
    (hending : ScriptLines.IsEnding ending) (capacity : Nat) :
    replOver readerNext (limit + 2) (Reader.ofBytes capacity (line.bytes ++ ending)) =
      (·, Reader.ofBytes capacity []) <$> execute [] line := by
  funext shell w
  refine run_replOver_line hending ?_ shell (fun _ => ?_) limit
  · unfold readerNext
    rw [Reader.next_line h hending]
    rfl
  · unfold readerNext
    rw [Reader.next_ofBytes_nil]
    rfl

/-- A line as a script behind a descriptor, unless it brings more lines there. -/
theorem run_repl_script (limit : Nat) {line : Text} (h : '\n' ∉ line) {ending : Bytes}
    (hending : ScriptLines.IsEnding ending) {descriptor : Nat} {w : World}
    (hahead : w.Ahead descriptor (line.bytes ++ ending)) {w' : World}
    (hread : w' = w.past descriptor (line.bytes ++ ending).length) (shell : Shell)
    (hend : (((execute [] line).run shell).run w').1.1 = .proceed →
      (((execute [] line).run shell).run w').2.Ahead descriptor []) :
    ((repl (limit + 2) (.script descriptor [])).run shell).run w =
      (((·, .script descriptor []) <$> execute [] line).run shell).run w' := by
  subst hread
  rw [repl_eq]
  exact run_replOver_line hending (Source.next_script_line h hending hahead) shell
    (fun hflow => Source.next_script_end (hend hflow)) limit

end Session

end LineShell
