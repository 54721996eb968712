import LineShell.Shell.Builtin
/-!
# One line

`Shell.exec` is what the shell does with one line: plan it, offer the leading command to the
built-ins, and otherwise run the plan in children. A line with nothing to run is skipped.
-/

namespace LineShell.Shell

/-- The source of planning records. -/
def planSource : Text := Text.lit "bosh::parse"

/-- The warning for words that found no slot. -/
def truncationRecord (t : Truncation) : Log.Record :=
  ⟨.warn, planSource, Text.lit "argument list truncated",
    [Log.Record.count "max_args" t.limit, Log.Record.count "dropped" t.dropped]⟩

/-- A slot as the log shows it. -/
def slotText : Option Text → Text
  | none => Text.lit "None"
  | some value => Text.lit "Some(" ++ Text.Quoted.encode value ++ [')']

/-- A vector as the log shows it. -/
def vectorText (v : ArgVector) : Text :=
  Text.lit "ArgVector \x7b slots: [" ++ Text.join (Text.lit ", ") (v.slots.map slotText) ++
    Text.lit "] \x7d"

/-- A plan as the log shows it. -/
def planText : Plan → Text
  | .simple args => Text.lit "Simple(" ++ vectorText args ++ [')']
  | .pipeline left right =>
    Text.lit "Pipeline(" ++ vectorText left ++ Text.lit ", " ++ vectorText right ++ [')']
  | .redirect args target mode =>
    Text.lit "Redirect(" ++ vectorText args ++ Text.lit ", " ++ Text.Quoted.encode target ++
      Text.lit ", " ++ Execution.modeName mode ++ [')']

/-- Plans a line in the environment of the process, with the records that planning writes. -/
def plan (maxArgs : Nat) (line : Text) : Proc (Except ShellError (Option Plan)) := do
  if Shape.dropsStage line then
    Proc.log ⟨.debug, planSource, Text.lit "ignoring pipeline stages after the second", []⟩
  let planned := Plan.ofLine (Environment.value? (← Proc.self).environment) maxArgs line
  planned.truncations.forM (fun t => Proc.log (truncationRecord t))
  return planned.outcome

/-- Runs a plan in children. -/
def runPlan : Plan → Proc (Except ShellError Unit)
  | .simple args => Execution.runSimple args
  | .pipeline left right => Execution.runPipeline left right
  | .redirect args target mode => Execution.runRedirect args target mode

/-- Runs a plan: built-ins first. -/
def run (p : Plan) : Attempt Flow := do
  match ← Builtin.dispatch p.leading with
  | .exit => return .exit
  | .handled => return .proceed
  | .replaced image => return .replaced image
  | .notBuiltin =>
    Attempt.ofProc (runPlan p)
    return .proceed

/-- Executes one line. -/
def exec (line : Text) : Attempt Flow := do
  match ← Attempt.ofProc (plan (← get).maxArgs line) with
  | none => return .proceed
  | some p =>
    (Proc.log ⟨.debug, Text.lit "bosh::shell", Text.lit "planned",
      [Log.Record.field "plan" (planText p)]⟩ : Proc Unit)
    run p

end LineShell.Shell
