import LineShell.Proofs.LineGaps
/-!
# The layout of lines

How much of a line planning takes no notice of: its comment, what stands behind a second bar, how
long the gaps between words are, and the blanks at its ends and around the operator that it is split
on. Only inside the target every blank counts.

`Line.Respaced` has one constructor for each edit of the layout. Every one of them puts other blanks
in a gap, and what is made of the line then has parts that are alike.

The headline is `Plan.ofLine_layout`.
-/

namespace LineShell

open Text Line

variable {b b' u v x y operator : Text}

/-! ### Edits of a line -/

namespace Line

/-- A target stands in a line, behind all of `front`: the command, the operator and blanks. -/
def TargetAt (line front target : Text) : Prop :=
  ∃ command mode lead trail, Shape.ofLine line = .redirected command target mode ∧
    front = command ++ mode.operator ++ lead ∧ code line = front ++ target ++ trail ∧
    Blanks lead ∧ Blanks trail

/-- What stands between `x` and `y` in a line is in its target, between `u` and `v`. -/
def Inside (x b y u v : Text) : Prop :=
  ∃ front, x = front ++ u ∧ TargetAt (x ++ b ++ y) front (u ++ b ++ v)

/-- A line is split on the operator that stands between `x` and `y`. -/
def SplitAt (x operator y : Text) : Prop :=
  (operator = ['|'] ∧ ∃ right, Shape.ofLine (x ++ operator ++ y) = .piped x right) ∨
    ∃ target mode, operator = mode.operator ∧
      Shape.ofLine (x ++ operator ++ y) = .redirected x target mode

/-- Lines of which the second has other blanks than the first, where blanks do not count. -/
inductive Respaced : Text → Text → Prop
  /-- A gap that is not in the target is of another length or of other blanks. -/
  | gap {x b b' y : Text} : IsGap b → IsGap b' → (∀ u v, ¬Inside x b y u v) →
    Respaced (x ++ b ++ y) (x ++ b' ++ y)
  /-- There are blanks at the ends. -/
  | ends {b b' line : Text} : Blanks b → Blanks b' → Respaced line (b ++ line ++ b')
  /-- There are blanks beside the operator that the line is split on. -/
  | operator {x operator y b b' : Text} : SplitAt x operator y → Blanks b → Blanks b' →
    Respaced (x ++ operator ++ y) (x ++ b ++ operator ++ b' ++ y)

/-- **A gap outside the target may have any length.** -/
theorem alike_gap (hb : IsGap b) (hb' : IsGap b') (h : ∀ u v, ¬Inside x b y u v) :
    (Parts.ofCode (code (x ++ b ++ y))).Alike (Parts.ofCode (code (x ++ b' ++ y))) := by
  -- A gap within the comment is not part of the code.
  by_cases hcomment : '#' ∈ x
  · rw [List.append_assoc, List.append_assoc, code_append_of_mem hcomment,
      code_append_of_mem hcomment]
    exact .refl _
  · have hcode := code_append_gap hcomment hb.2 y
    obtain ⟨hlawful, hparts⟩ := Parts.ofCode_lawful (x ++ b ++ code y)
    obtain ⟨gap, hfront, hrear, hput⟩ := Gap.exists_put hb hparts
    -- A gap behind the operator is at an edge of the target; else it would be inside.
    have hedge : ∀ c u v mode, gap = .behind c u v mode → Edge u v := by
      rintro c u v mode rfl
      refine Classical.byContradiction fun hnot => ?_
      obtain ⟨hu, hv⟩ := not_or.1 hnot
      obtain ⟨lead, u', v', trail, hlead, htrail, rfl, rfl, htrims⟩ := trims_gap hu hv b
      have hshape : Shape.ofLine (x ++ b ++ y) = .redirected c (u' ++ b ++ v') mode := by
        unfold Shape.ofLine
        rw [hcode, Shape.ofCode_eq_iff, ← hput]
        exact ⟨_, htrims, rfl⟩
      refine h u' v' ⟨c ++ mode.operator ++ lead, ?_, c, mode, lead, trail, hshape, rfl, ?_,
        hlead, htrail⟩
      · rw [← hfront]
        simp [Gap.front]
      · rw [hcode, ← hfront, ← hrear]
        simp [Gap.front, Gap.rear]
    rw [hcode, code_append_gap hcomment hb'.2 y, ← hput]
    refine Parts.alike_ofCode (gap.lawful_put hb'.2 (.inr hb'.1) (hput ▸ hlawful)) ?_
      (Gap.alike_put (Gap.exchanges_of_isGap hb hb' hedge))
    rw [gap.code_put, hfront, hrear]

theorem SplitAt.splitsAt (h : SplitAt x operator y) :
    (Parts.ofCode (code (x ++ operator ++ y))).SplitsAt x operator := by
  have hreads := (Shape.ofCode_eq_iff (code (x ++ operator ++ y))).1 rfl
  unfold SplitAt Shape.ofLine at h
  generalize Parts.ofCode (code (x ++ operator ++ y)) = parts at hreads ⊢
  rcases h with ⟨hoperator, right, hshape⟩ | ⟨target, mode, hoperator, hshape⟩
  · rw [hshape] at hreads
    match parts, hreads with
    | .piped l r d, hreads =>
      cases hreads
      exact .inl ⟨hoperator, right, d, rfl⟩
    | .redirected c t mode, ⟨_, _, hreads⟩ => cases hreads
  · rw [hshape] at hreads
    match parts, hreads with
    | .redirected c t mode, ⟨_, _, hreads⟩ =>
      cases hreads
      exact .inr ⟨t, mode, hoperator, rfl⟩

/-- **There may be blanks beside the operator that a line is split on.** -/
theorem alike_operator (h : SplitAt x operator y) (hb : Blanks b) (hb' : Blanks b') :
    (Parts.ofCode (code (x ++ operator ++ y))).Alike
      (Parts.ofCode (code (x ++ b ++ operator ++ b' ++ y))) := by
  have hsplits := h.splitsAt
  obtain ⟨hlawful, hparts⟩ := Parts.ofCode_lawful (code (x ++ operator ++ y))
  have hcomment : '#' ∉ code (x ++ operator ++ y) := ((isCode_iff _ _).2 rfl).1
  have hfree : '#' ∉ x ++ operator := fun h => hcomment (hparts ▸ hsplits.begins.subset h)
  have hfree' : '#' ∉ x ++ b ++ operator ++ b' := by
    have hsign : ∀ {t : Text}, Blanks t → '#' ∉ t := fun ht => not_mem_of_blanks (by decide) ht
    simp only [List.mem_append, not_or] at hfree ⊢
    exact ⟨⟨⟨hfree.1, hsign hb⟩, hfree.2⟩, hsign hb'⟩
  have hcode := code_append_of_free hfree y
  rw [hcode] at hsplits hlawful hparts ⊢
  rw [code_append_of_free hfree']
  exact Parts.alike_of_splitsAt hlawful hsplits hparts hb hb'

/-- **The blanks of a target are kept**: a line with others there has the target with those. -/
theorem Inside.ofLine_put (h : Inside x b y u v) (hb : IsGap b) (hb' : IsGap b') :
    ∃ command mode, Shape.ofLine (x ++ b ++ y) = .redirected command (u ++ b ++ v) mode ∧
      Shape.ofLine (x ++ b' ++ y) = .redirected command (u ++ b' ++ v) mode := by
  obtain ⟨front, rfl, command, mode, lead, trail, hshape, rfl, hcode, hlead, htrail⟩ := h
  refine ⟨command, mode, hshape, ?_⟩
  -- The code reaches over the gap, so that no comment begins before it.
  have hfree : '#' ∉ command ++ mode.operator ++ lead ++ u := by
    have hcomment := ((isCode_iff (command ++ mode.operator ++ lead ++ u ++ b ++ y) _).2 rfl).1
    rw [hcode] at hcomment
    simp only [List.mem_append, not_or] at hcomment ⊢
    exact ⟨hcomment.1.1, hcomment.1.2.1.1⟩
  have hrear : code y = v ++ trail := by
    rw [code_append_gap hfree hb.2] at hcode
    simpa using hcode
  have hreads := (Shape.ofCode_eq_iff _).1 hshape
  obtain ⟨hlawful, hparts⟩ :=
    Parts.ofCode_lawful (code (command ++ mode.operator ++ lead ++ u ++ b ++ y))
  generalize Parts.ofCode (code (command ++ mode.operator ++ lead ++ u ++ b ++ y)) = parts
    at hreads hlawful hparts
  match parts, hreads with
  | .redirected c behind m, ⟨target, htrims, heq⟩ =>
    cases heq
    have hput : Gap.put (.behind command (lead ++ u) (v ++ trail) mode) b =
        .redirected command behind mode := by
      rw [hcode] at hparts
      simp [Parts.code] at hparts
      simp [Gap.put, hparts]
    have hlawful' := Gap.lawful_put (.behind command (lead ++ u) (v ++ trail) mode) hb'.2
      (.inr hb'.1) (hput ▸ hlawful)
    have hcode' : code (command ++ mode.operator ++ lead ++ u ++ b' ++ y) =
        (Gap.put (.behind command (lead ++ u) (v ++ trail) mode) b').code := by
      rw [code_append_gap hfree hb'.2, hrear]
      simp [Gap.put, Parts.code]
    -- The ends of the target are not those of the gap, and stay as they are.
    have htrims' : Trims (lead ++ u ++ b' ++ (v ++ trail)) (u ++ b' ++ v) :=
      ⟨⟨lead, trail, hlead, htrail, by simp⟩, head_of_put hb htrims.head,
        last_of_put hb htrims.last⟩
    unfold Shape.ofLine
    rw [hcode', Shape.ofCode_eq_iff, Parts.ofCode_code hlawful']
    exact ⟨_, htrims', rfl⟩

end Line

/-! ### Plans -/

/-- What stands behind the second bar is not looked at. -/
theorem Shape.ofLine_append_stage (l r rest : Text) :
    ofLine (l ++ '|' :: (r ++ '|' :: rest)) = ofLine (l ++ '|' :: r) := by
  have hline : l ++ '|' :: (r ++ '|' :: rest) = l ++ '|' :: r ++ '|' :: rest := by simp
  unfold ofLine
  rw [hline]
  by_cases hcomment : '#' ∈ l ++ '|' :: r
  · rw [code_append_of_mem hcomment]
  · have hself : code (l ++ '|' :: r) = l ++ '|' :: r :=
      ((isCode_iff _ _).1 ⟨hcomment, .inl rfl⟩).symm
    have hstage : code ('|' :: rest) = '|' :: code rest :=
      code_append_of_free (show '#' ∉ ['|'] by decide) rest
    rw [code_append_of_free hcomment, hself, hstage]
    cases hafter : after (· == '|') (l ++ '|' :: r) with
    | none => exact absurd (after_eq_none_iff.1 hafter '|' (by simp)) (by decide)
    | some w =>
      unfold ofCode
      rw [after_append_of_after hafter, hafter]
      dsimp only
      rw [before_append_of_after hafter, before_append_cons rfl w]

namespace Plan

variable {vars : Text → Option Text} {cap : Nat} {line target : Text} {args : ArgVector}
  {mode : RedirectMode}

theorem ofLine_respaced {line line' : Text} (h : Respaced line line') :
    ofLine vars cap line' = ofLine vars cap line := by
  cases h with
  | gap hb hb' hnot => exact (ofLine_congr vars cap (alike_gap hb hb' hnot)).symm
  | @ends b b' line hb hb' =>
    have hfree : '#' ∉ b := not_mem_of_blanks (by decide) hb
    obtain ⟨hlawful, hparts⟩ := Parts.ofCode_lawful (code line)
    have halike := Parts.alike_of_blanks hlawful hb
    rw [hparts, ← code_append_of_free hfree] at halike
    rw [ofLine_append vars cap _ hb', ofLine_congr vars cap halike]
  | operator hsplit hb hb' => exact (ofLine_congr vars cap (alike_operator hsplit hb hb')).symm

/-- A redirection is planned for a redirected shape with a command and a target. -/
theorem ofShape_eq_redirect {shape : Shape} :
    (ofShape vars cap shape).outcome = .ok (some (.redirect args target mode)) ↔
      ∃ command, shape = .redirected command target mode ∧
        args = (ArgVector.ofSegment vars cap command).vector ∧ args.isEmpty = false ∧
        target.isEmpty = false := by
  unfold ofShape
  cases shape with
  | plain command =>
    dsimp only [ofCommand]
    split <;> simp
  | piped left right =>
    dsimp only [ofStages]
    split
    · simp
    · split <;> simp
    · simp
  -- Only a redirected shape comes to this plan; the other two never do.
  | redirected command target' mode' =>
    constructor
    · intro h
      dsimp only [ofRedirection] at h
      split at h
      · cases h
      · split at h
        · cases h
        · rename_i hargs htarget
          cases h
          exact ⟨command, rfl, rfl, Bool.eq_false_iff.2 hargs, Bool.eq_false_iff.2 htarget⟩
    · rintro ⟨_, ⟨⟩, rfl, hargs, htarget⟩
      dsimp only [ofRedirection]
      rw [hargs, htarget]
      rfl

/-- **The target of a plan stands in the line as it is.** -/
theorem targetAt_of_redirect
    (h : (ofLine vars cap line).outcome = .ok (some (.redirect args target mode))) :
    ∃ front, TargetAt line front target := by
  obtain ⟨command, hshape, -⟩ := ofShape_eq_redirect.1 h
  have hreads := (Shape.ofCode_eq_iff _).1 hshape
  obtain ⟨-, hparts⟩ := Parts.ofCode_lawful (code line)
  generalize Parts.ofCode (code line) = parts at hreads hparts
  match parts, hreads with
  | .redirected c behind m, ⟨t, ⟨⟨lead, trail, hlead, htrail, hbehind⟩, _, _⟩, heq⟩ =>
    cases heq
    refine ⟨command ++ mode.operator ++ lead, command, mode, lead, trail, hshape, rfl, ?_, hlead,
      htrail⟩
    rw [← hparts, Parts.code, hbehind]
    simp only [List.append_assoc]

/-- The plan with another target, if it has one. -/
def withTarget (target : Text) : Plan → Plan
  | redirect args _ mode => redirect args target mode
  | p => p

end Plan

/-- What is planned, with another target. -/
def Planned.withTarget (target : Text) (p : Planned) : Planned :=
  ⟨p.truncations, p.outcome.map (Option.map (Plan.withTarget target))⟩

namespace Plan

variable {vars : Text → Option Text} {cap : Nat} {target : Text}

/-- Targets with something in them make no difference but for themselves. -/
theorem ofShape_withTarget {command target' : Text} {mode : RedirectMode} (h : target ≠ [])
    (h' : target' ≠ []) : ofShape vars cap (.redirected command target' mode) =
      (ofShape vars cap (.redirected command target mode)).withTarget target' := by
  have hempty : target.isEmpty = false := by simpa using h
  have hempty' : target'.isEmpty = false := by simpa using h'
  unfold Planned.withTarget ofShape
  dsimp only
  rw [ofRedirection, ofRedirection, hempty, hempty']
  split <;> rfl

theorem ofLine_inside (hb : IsGap b) (hb' : IsGap b') (h : Inside x b y u v) :
    ofLine vars cap (x ++ b ++ y) =
      (ofLine vars cap (x ++ b ++ y)).withTarget (u ++ b ++ v) ∧
    ofLine vars cap (x ++ b' ++ y) =
      (ofLine vars cap (x ++ b ++ y)).withTarget (u ++ b' ++ v) := by
  obtain ⟨command, mode, hshape, hshape'⟩ := h.ofLine_put hb hb'
  have hne : ∀ {t : Text}, IsGap t → u ++ t ++ v ≠ [] := fun ht => by simp [ht.1]
  unfold ofLine
  rw [hshape, hshape']
  exact ⟨ofShape_withTarget (hne hb) (hne hb), ofShape_withTarget (hne hb) (hne hb')⟩

/-- **Planning takes no notice of comments, of stages behind the second and of layout.** A comment
and what stands behind a second bar change nothing in the outcome and in the warnings, and neither
do blanks, wherever they are put for others or put in, but for those inside the target: it stands in
the line as it is, and with other blanks there nothing is planned differently but the target, which
has those blanks. -/
theorem ofLine_layout (vars : Text → Option Text) (cap : Nat) :
    (∀ line comment, ofLine vars cap (line ++ '#' :: comment) = ofLine vars cap line) ∧
    (∀ l r rest,
      ofLine vars cap (l ++ '|' :: (r ++ '|' :: rest)) = ofLine vars cap (l ++ '|' :: r)) ∧
    (∀ line line', Respaced line line' → ofLine vars cap line' = ofLine vars cap line) ∧
    (∀ line args target mode,
      (ofLine vars cap line).outcome = .ok (some (.redirect args target mode)) →
        ∃ front, TargetAt line front target) ∧
    ∀ x b y u v b', IsGap b → IsGap b' → Inside x b y u v →
      ofLine vars cap (x ++ b ++ y) =
        (ofLine vars cap (x ++ b ++ y)).withTarget (u ++ b ++ v) ∧
      ofLine vars cap (x ++ b' ++ y) =
        (ofLine vars cap (x ++ b ++ y)).withTarget (u ++ b' ++ v) := by
  refine ⟨fun line comment => ?_, fun l r rest => ?_, fun line line' => ofLine_respaced,
    fun line args target mode => targetAt_of_redirect, fun x b y u v b' => ofLine_inside⟩
  · unfold ofLine Shape.ofLine
    rw [code_append_comment]
  · unfold ofLine
    rw [Shape.ofLine_append_stage]

/-- Three blanks for one in front of a word, with two in a target that stay as they are. -/
theorem ofLine_layout_command :
    ofLine (Environment.value? [(lit "X", bytesOf "echo")]) 2 (lit "$X \t\u00A0a > b  c # d") =
      ofLine (Environment.value? [(lit "X", bytesOf "echo")]) 2 (lit "$X a > b  c # d") ∧
    (ofLine (Environment.value? [(lit "X", bytesOf "echo")]) 2 (lit "$X a > b  c # d")).outcome =
      .ok (some (.redirect ⟨[some (lit "echo"), some ['a']]⟩ (lit "b  c") .truncate)) := by
  have hgap : IsGap [' '] := ⟨by decide, blanks_of_isAllBlank rfl⟩
  have hgap' : IsGap (lit " \t\u00A0") := ⟨by decide, blanks_of_isAllBlank rfl⟩
  have houtside : ∀ u v, ¬Inside (lit "$X") [' '] (lit "a > b  c # d") u v := by
    rintro u v ⟨front, hx, command, mode, lead, trail, -, rfl, -⟩
    have hmem : '>' ∈ lit "$X" := by
      rw [hx]
      cases mode <;> simp [RedirectMode.operator]
    exact absurd hmem (by decide)
  exact ⟨(ofLine_layout _ 2).2.2.1 _ _ (.gap hgap hgap' houtside), rfl⟩

end Plan

end LineShell
