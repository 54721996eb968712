import LineShell.Text.Blank
/-!
# The shape of a line

A line is cut at its first `#`, and what is left, its *code*, has one of three shapes. A bar makes
it a pipeline of two stages (a second bar cuts off what follows); otherwise a redirection operator
makes it a redirection, where the longer operator is looked for first; otherwise it is plain.

* `code` is the part before the first `#`.
* `Shape.ofLine` classifies a line.
* `cutAt_eq_none_iff`, `cutAt_eq_some` and `length_le_of_cutAt`: there is a cut exactly where the
  operator occurs, nothing is lost by it, and it is the leftmost one.
-/

namespace LineShell

/-- What opening the target of a redirection does with former contents. -/
inductive RedirectMode where
  /-- Former contents are dropped. -/
  | truncate
  /-- Output goes behind former contents. -/
  | append
  deriving DecidableEq, Repr

namespace RedirectMode

/-- The operator that asks for the mode. -/
def operator : RedirectMode → Text
  | truncate => ['>']
  | append => ['>', '>']

end RedirectMode

/-- The structural shape of one line. -/
inductive Shape where
  | plain (command : Text)
  | piped (left right : Text)
  | redirected (command target : Text) (mode : RedirectMode)
  deriving DecidableEq, Repr

/-- The part of a line before its comment, which starts at the first `#`. -/
def code (line : Text) : Text := Text.before (· == '#') line

/-- The text before and behind the leftmost occurrence of an operator. -/
def cutAt (operator : Text) : Text → Option (Text × Text)
  | [] => if operator.isEmpty then some ([], []) else none
  | c :: rest =>
    if operator.isPrefixOf (c :: rest) then some ([], (c :: rest).drop operator.length)
    else (cutAt operator rest).map (fun cut => (c :: cut.1, cut.2))

namespace Shape

/-- The redirection at the leftmost operator of a mode, with blanks around the target dropped. -/
def redirection? (mode : RedirectMode) (code : Text) : Option Shape :=
  (cutAt mode.operator code).map (fun cut => redirected cut.1 (Text.trim cut.2) mode)

/-- The shape of code: a bar wins over an operator, the longer operator over the shorter. -/
def ofCode (code : Text) : Shape :=
  match Text.after (· == '|') code with
  | some rest => piped (Text.before (· == '|') code) (Text.before (· == '|') rest)
  | none =>
    (redirection? .append code <|> redirection? .truncate code).getD (plain code)

/-- The shape of a line. -/
def ofLine (line : Text) : Shape := ofCode (code line)

/-- Whether a line has a stage behind its second one, which is dropped. -/
def dropsStage (line : Text) : Bool :=
  match Text.after (· == '|') (code line) with
  | some rest => rest.contains '|'
  | none => false

end Shape

theorem cutAt_eq_some {operator t l r : Text} (h : cutAt operator t = some (l, r)) :
    t = l ++ operator ++ r := by
  induction t generalizing l r with
  | nil =>
    unfold cutAt at h
    split at h <;> simp_all
  | cons c t ih =>
    unfold cutAt at h
    split at h
    · rename_i hp
      obtain ⟨s, hs⟩ := List.isPrefixOf_iff_prefix.1 hp
      simp only [Option.some.injEq, Prod.mk.injEq] at h
      obtain ⟨rfl, rfl⟩ := h
      rw [← hs]
      simp
    · obtain ⟨⟨l', r'⟩, hcut, heq⟩ := Option.map_eq_some_iff.1 h
      simp only [Prod.mk.injEq] at heq
      obtain ⟨rfl, rfl⟩ := heq
      rw [ih hcut]
      simp

theorem cutAt_eq_none_iff {operator t : Text} : cutAt operator t = none ↔ ¬operator <:+: t := by
  induction t with
  | nil => cases operator <;> simp [cutAt]
  | cons c t ih =>
    rw [List.infix_cons_iff, ← List.isPrefixOf_iff_prefix]
    unfold cutAt
    split
    · rename_i h
      simp [h]
    · rename_i h
      simp [h, ih]

/-- The cut is at the leftmost occurrence. -/
theorem length_le_of_cutAt {operator t l r l' r' : Text} (h : cutAt operator t = some (l, r))
    (ht : t = l' ++ operator ++ r') : l.length ≤ l'.length := by
  induction t generalizing l r l' with
  | nil =>
    unfold cutAt at h
    split at h <;> simp_all
  | cons c t ih =>
    unfold cutAt at h
    split at h
    · simp_all
    · rename_i hp
      obtain ⟨⟨l₀, r₀⟩, hcut, heq⟩ := Option.map_eq_some_iff.1 h
      simp only [Prod.mk.injEq] at heq
      obtain ⟨rfl, rfl⟩ := heq
      cases l' with
      | nil =>
        refine absurd (List.isPrefixOf_iff_prefix.2 ?_) hp
        exact ⟨r', by simpa using ht.symm⟩
      | cons d l' =>
        simp only [List.cons_append, List.cons.injEq] at ht
        simpa using ih hcut ht.2

end LineShell
