import LineShell.Error.ShellError
import LineShell.Line.ArgVector
/-!
# Plans

What the shell will run for one line. `Plan.ofShape` tokenizes the segments of a shape, the left
stage first, and says that there is nothing to run, that the line is wrong, or what the plan is.

* A plain line runs when it has a usable command.
* A pipeline with words on one side only is wrong; with words on both it runs when the left side
  has a usable command. The right side may lack one: its own process will report that.
* A redirection without a usable command is nothing to run, even when its target is missing too.
-/

namespace LineShell

/-- What the executor runs for one line. -/
inductive Plan where
  | simple (args : ArgVector)
  | pipeline (left right : ArgVector)
  | redirect (args : ArgVector) (target : Text) (mode : RedirectMode)
  deriving DecidableEq, Repr

/-- The outcome of planning a line, with the warnings for segments that had too many words. -/
structure Planned where
  truncations : List Truncation
  outcome : Except ShellError (Option Plan)

namespace Plan

/-- The vector in which a built-in command is looked for. -/
def leading : Plan → ArgVector
  | simple args => args
  | pipeline left _ => left
  | redirect args _ _ => args

/-- The plan for a plain command. -/
def ofCommand (args : ArgVector) : Option Plan :=
  if args.isEmpty then none else some (simple args)

/-- The plan for two stages. -/
def ofStages (left right : ArgVector) : Except ShellError (Option Plan) :=
  match left.isBlank, right.isBlank with
  | true, true => .ok none
  | false, false => .ok (if left.isEmpty then none else some (pipeline left right))
  | _, _ => .error .emptyPipeStage

/-- The plan for a command and a target. -/
def ofRedirection (args : ArgVector) (target : Text) (mode : RedirectMode) :
    Except ShellError (Option Plan) :=
  if args.isEmpty then .ok none
  else if target.isEmpty then .error (.missingTarget mode)
  else .ok (some (redirect args target mode))

/-- Plans a shape. -/
def ofShape (vars : Text → Option Text) (cap : Nat) : Shape → Planned
  | .plain command =>
    let t := ArgVector.ofSegment vars cap command
    ⟨(t.truncation? cap).toList, .ok (ofCommand t.vector)⟩
  | .piped left right =>
    let l := ArgVector.ofSegment vars cap left
    let r := ArgVector.ofSegment vars cap right
    ⟨(l.truncation? cap).toList ++ (r.truncation? cap).toList, ofStages l.vector r.vector⟩
  | .redirected command target mode =>
    let t := ArgVector.ofSegment vars cap command
    ⟨(t.truncation? cap).toList, ofRedirection t.vector target mode⟩

/-- Plans a line. -/
def ofLine (vars : Text → Option Text) (cap : Nat) (line : Text) : Planned :=
  ofShape vars cap (Shape.ofLine line)

end Plan

end LineShell
