import LineShell.Line.Plan
import LineShell.Proofs.LineGrammar
import LineShell.Proofs.Segments
/-!
# Planning

Planning is decided by words. `Plan.Decides` has one rule for each way it can go, in terms of the
runs that the segments of a shape are made of and of whether the first one starts usably,
`ArgVector.Usable`; `Plan.WellFormed` is what an executor may rely on.

The headline is `Plan.ofLine_decides`: the rules say what every line is planned as, and every plan
is well formed.
-/

namespace LineShell

variable {vars : Text → Option Text} {cap : Nat} {ws : List Text}

/-! ### Usable words -/

namespace ArgVector

/-- A name whose value is there and not empty. -/
def Defines (vars : Text → Option Text) (name : Text) : Prop :=
  ∃ value, vars name = some value ∧ value ≠ []

/-- Words of which the first stands for itself or names a variable that has a value. -/
def Usable (vars : Text → Option Text) (ws : List Text) : Prop :=
  ∃ w ∈ ws.head?, ∀ name, w = '$' :: name → Defines vars name

/-- The vector of words under a cap. -/
def ofWords (vars : Text → Option Text) (cap : Nat) (ws : List Text) : ArgVector :=
  ⟨(ws.take cap).map (slot vars)⟩

theorem isBlank_ofWords (hcap : 1 ≤ cap) (vars : Text → Option Text) :
    (ofWords vars cap ws).isBlank = true ↔ ws = [] := by
  obtain ⟨n, rfl⟩ : ∃ n, cap = n + 1 := ⟨cap - 1, by omega⟩
  cases ws with
  | nil => exact iff_of_true rfl rfl
  | cons w ws => exact iff_of_false Bool.false_ne_true (List.cons_ne_nil w ws)

/-- **A vector of words has a command exactly if they start usably.** -/
theorem isEmpty_ofWords (hcap : 1 ≤ cap) (hne : ∀ w ∈ ws, w ≠ []) :
    (ofWords vars cap ws).isEmpty = false ↔ Usable vars ws := by
  obtain ⟨n, rfl⟩ : ∃ n, cap = n + 1 := ⟨cap - 1, by omega⟩
  have hcommand : (ofWords vars (n + 1) ws).isEmpty = false ↔
      ∃ name, name ≠ [] ∧ (ofWords vars (n + 1) ws).slots.head? = some (some name) := by
    unfold isEmpty
    rw [Option.isNone_eq_false_iff, Option.isSome_iff_exists]
    exact exists_congr fun _ => command?_eq_some_iff
  rw [hcommand]
  cases ws with
  | nil => exact iff_of_false (fun ⟨_, _, h⟩ => nomatch h) fun ⟨_, h, _⟩ => nomatch h
  | cons w rest =>
    show (∃ name, name ≠ [] ∧ some (slot vars w) = some (some name)) ↔ _
    by_cases hvariable : ∃ name, w = '$' :: name
    · obtain ⟨name, rfl⟩ := hvariable
      -- A variable as first word is usable exactly if its name leads to a value that is not empty.
      have husable : Usable vars (('$' :: name) :: rest) ↔ Defines vars name := by
        constructor
        · rintro ⟨w, hw, hdefines⟩
          exact hdefines name (Option.some.inj hw).symm
        · exact fun h => ⟨_, rfl, fun other heq => (List.cons.inj heq).2 ▸ h⟩
      rw [husable]
      refine exists_congr fun value => ?_
      rw [Option.some_inj, and_comm]
      rfl
    · have hplain : ∀ name, w ≠ '$' :: name := fun name heq => hvariable ⟨name, heq⟩
      rw [slot_of_plain _ hplain]
      exact iff_of_true ⟨w, hne w List.mem_cons_self, rfl⟩
        ⟨w, rfl, fun name heq => absurd heq (hplain name)⟩

end ArgVector

/-! ### Segments of a line -/

namespace Shape

/-- The segments that are cut into words, the left stage first. -/
def segments : Shape → List Text
  | plain command => [command]
  | piped left right => [left, right]
  | redirected command _ _ => [command]

/-- The target of a redirection. -/
def target? : Shape → Option Text
  | redirected _ target _ => some target
  | _ => none

/-- Nothing is read that the parts do not hold. -/
theorem subset_of_reads {parts : Line.Parts} {shape : Shape} (h : parts.Reads shape) :
    (∀ segment ∈ shape.segments, segment ⊆ parts.code) ∧
      ∀ target ∈ shape.target?, target ⊆ parts.code ∧ Text.Trims target target := by
  match parts, h with
  | .plain command, rfl =>
    exact ⟨by simp [segments, Line.Parts.code], fun _ h => nomatch h⟩
  | .piped left right none, rfl =>
    exact ⟨by simp [segments, Line.Parts.code], fun _ h => nomatch h⟩
  -- The stages behind the second one are read by nobody.
  | .piped left right (some dropped), rfl =>
    have hright : right ⊆ left ++ '|' :: (right ++ '|' :: dropped) :=
      fun c hc => List.mem_append_right _ (List.mem_cons_of_mem _ (List.mem_append_left _ hc))
    exact ⟨by simp [segments, Line.Parts.code, hright], fun _ h => nomatch h⟩
  | .redirected command behind mode, ⟨target, htrims, rfl⟩ =>
    obtain ⟨⟨b, b', hb, hb', hbehind⟩, hhead, hlast⟩ := htrims
    refine ⟨by simp [segments, Line.Parts.code], ?_⟩
    rintro _ ⟨⟩
    refine ⟨fun c hc => ?_, ⟨[], [], Text.blanks_nil, Text.blanks_nil, ?_⟩, hhead, hlast⟩
    · have hmem : c ∈ behind := by
        rw [hbehind]
        exact List.mem_append_left b' (List.mem_append_right b hc)
      exact List.mem_append_right _ hmem
    · rw [List.nil_append, List.append_nil]

/-- **No segment of a line holds a comment**, and a target holds no bar either. -/
theorem ofLine_free (line : Text) :
    (∀ segment ∈ (ofLine line).segments, '#' ∉ segment) ∧
      ∀ target ∈ (ofLine line).target?,
        Text.Trims target target ∧ '#' ∉ target ∧ '|' ∉ target := by
  obtain ⟨-, hcode⟩ := Line.Parts.ofCode_lawful (code line)
  obtain ⟨hsegments, htarget⟩ := subset_of_reads ((ofCode_eq_iff (code line)).1 rfl)
  have hcomment : '#' ∉ code line := ((isCode_iff line _).2 rfl).1
  rw [hcode] at hsegments htarget
  refine ⟨fun segment hsegment hmem => hcomment (hsegments segment hsegment hmem), ?_⟩
  intro target hshape
  obtain ⟨hsubset, htrims⟩ := htarget target hshape
  have hbar : '|' ∉ code line := by
    rw [← (ofCode_kind (code line)).1]
    rintro ⟨l, r, hpiped⟩
    rw [ofLine, hpiped] at hshape
    cases hshape
  exact ⟨htrims, fun hmem => hcomment (hsubset hmem), fun hmem => hbar (hsubset hmem)⟩

end Shape

/-- A segment without a comment has the words of its text. -/
theorem ArgVector.segmentWords_of_free {segment : Text} (h : '#' ∉ segment) :
    segmentWords segment = Text.words segment := by
  have hcode : segment = code segment := (isCode_iff segment segment).1 ⟨h, .inl rfl⟩
  unfold segmentWords
  rw [← hcode]

/-! ### The ways planning can go -/

namespace Plan

open ArgVector Text

/-- What a shape is planned as, by the runs of its segments. -/
inductive Decides (vars : Text → Option Text) (cap : Nat) :
    Shape → Except ShellError (Option Plan) → Prop
  /-- A command that starts usably is run. -/
  | simple {command ws} : Runs command ws → Usable vars ws →
    Decides vars cap (.plain command) (.ok (some (simple (ofWords vars cap ws))))
  /-- A command that does not is nothing to run. -/
  | noCommand {command ws} : Runs command ws → ¬Usable vars ws →
    Decides vars cap (.plain command) (.ok none)
  /-- Two stages without words are nothing to run. -/
  | noStages {left right} : Runs left [] → Runs right [] →
    Decides vars cap (.piped left right) (.ok none)
  /-- One stage without words is an error. -/
  | oneStage {left right ls rs} : Runs left ls → Runs right rs → (ls = [] ↔ rs ≠ []) →
    Decides vars cap (.piped left right) (.error .emptyPipeStage)
  /-- Two stages are nothing to run if the left one does not start usably. -/
  | noLeading {left right ls rs} : Runs left ls → Runs right rs → ls ≠ [] → rs ≠ [] →
    ¬Usable vars ls → Decides vars cap (.piped left right) (.ok none)
  /-- Two stages are run if it does, whatever the right one starts with. -/
  | pipeline {left right ls rs} : Runs left ls → Runs right rs → rs ≠ [] → Usable vars ls →
    Decides vars cap (.piped left right)
      (.ok (some (pipeline (ofWords vars cap ls) (ofWords vars cap rs))))
  /-- A redirected command that does not start usably is nothing to run, with or without target. -/
  | noRedirected {command target mode ws} : Runs command ws → ¬Usable vars ws →
    Decides vars cap (.redirected command target mode) (.ok none)
  /-- One that does needs a target. -/
  | noTarget {command mode ws} : Runs command ws → Usable vars ws →
    Decides vars cap (.redirected command [] mode) (.error (.missingTarget mode))
  /-- And it is run with a target. -/
  | redirect {command target mode ws} : Runs command ws → Usable vars ws → target ≠ [] →
    Decides vars cap (.redirected command target mode)
      (.ok (some (redirect (ofWords vars cap ws) target mode)))

/-- The outcome of planning a shape, with the words of its segments put in. -/
def outcomeOf (vars : Text → Option Text) (cap : Nat) : Shape → Except ShellError (Option Plan)
  | .plain command => .ok (ofCommand (ofWords vars cap (words command)))
  | .piped left right => ofStages (ofWords vars cap (words left)) (ofWords vars cap (words right))
  | .redirected command target mode =>
    ofRedirection (ofWords vars cap (words command)) target mode

theorem ofShape_outcome (vars : Text → Option Text) (cap : Nat) {shape : Shape}
    (h : ∀ segment ∈ shape.segments, '#' ∉ segment) :
    (ofShape vars cap shape).outcome = outcomeOf vars cap shape := by
  have hvector : ∀ segment ∈ shape.segments,
      (ofSegment vars cap segment).vector = ofWords vars cap (words segment) := by
    intro segment hsegment
    rw [ofSegment_eq, segmentWords_of_free (h segment hsegment)]
    rfl
  unfold ofShape outcomeOf
  cases shape with
  | plain command =>
    dsimp only
    rw [hvector command (by simp [Shape.segments])]
  | piped left right =>
    dsimp only
    rw [hvector left (by simp [Shape.segments]), hvector right (by simp [Shape.segments])]
  | redirected command target mode =>
    dsimp only
    rw [hvector command (by simp [Shape.segments])]

/-- Some rule applies to every shape. -/
theorem exists_decides (vars : Text → Option Text) (cap : Nat) (shape : Shape) :
    ∃ outcome, Decides vars cap shape outcome := by
  have hruns : ∀ t, Runs t (words t) := fun t => runs_iff.2 rfl
  cases shape with
  | plain command =>
    by_cases husable : Usable vars (words command)
    · exact ⟨_, .simple (hruns command) husable⟩
    · exact ⟨_, .noCommand (hruns command) husable⟩
  | piped left right =>
    -- Blank stages are told apart first; whether the left one is usable matters only with both.
    by_cases hleft : words left = []
    · by_cases hright : words right = []
      · exact ⟨_, .noStages (hleft ▸ hruns left) (hright ▸ hruns right)⟩
      · exact ⟨_, .oneStage (hruns left) (hruns right) (iff_of_true hleft hright)⟩
    · by_cases hright : words right = []
      · exact ⟨_, .oneStage (hruns left) (hruns right) (iff_of_false hleft (· hright))⟩
      · by_cases husable : Usable vars (words left)
        · exact ⟨_, .pipeline (hruns left) (hruns right) hright husable⟩
        · exact ⟨_, .noLeading (hruns left) (hruns right) hleft hright husable⟩
  | redirected command target mode =>
    by_cases husable : Usable vars (words command)
    · cases target with
      | nil => exact ⟨_, .noTarget (hruns command) husable⟩
      | cons c target => exact ⟨_, .redirect (hruns command) husable (List.cons_ne_nil c target)⟩
    · exact ⟨_, .noRedirected (hruns command) husable⟩

theorem not_nil_of_usable (h : Usable vars ws) : ws ≠ [] := by
  rintro rfl
  obtain ⟨w, hw, -⟩ := h
  exact nomatch hw

/-- **What a rule says is what comes out.** -/
theorem outcomeOf_of_decides (hcap : 1 ≤ cap) {shape : Shape}
    {outcome : Except ShellError (Option Plan)} (h : Decides vars cap shape outcome) :
    outcomeOf vars cap shape = outcome := by
  -- What the rules say of words, in the terms that the plan is computed in.
  have hblank : ∀ {t ws}, Runs t ws → ws = [] →
      (ofWords vars cap (words t)).isBlank = true := by
    rintro t ws hruns rfl
    exact (isBlank_ofWords hcap _).2 (runs_iff.1 hruns).symm
  have hwords : ∀ {t ws}, Runs t ws → ws ≠ [] →
      (ofWords vars cap (words t)).isBlank = false := by
    intro t ws hruns hne
    rw [← runs_iff.1 hruns, Bool.eq_false_iff]
    exact fun h => hne ((isBlank_ofWords hcap _).1 h)
  have husable : ∀ {t ws}, Runs t ws → Usable vars ws →
      (ofWords vars cap (words t)).isEmpty = false := by
    intro t ws hruns husable
    exact (isEmpty_ofWords hcap fun w hw => words_nonempty hw).2 (runs_iff.1 hruns ▸ husable)
  have hunusable : ∀ {t ws}, Runs t ws → ¬Usable vars ws →
      (ofWords vars cap (words t)).isEmpty = true := by
    intro t ws hruns hnot
    rw [← Bool.not_eq_false, isEmpty_ofWords hcap fun w hw => words_nonempty hw,
      ← runs_iff.1 hruns]
    exact hnot
  unfold outcomeOf
  -- One case for each rule, in each of which the computation has one way to go.
  cases h with
  | simple hruns hstart =>
    dsimp only
    rw [ofCommand, husable hruns hstart, runs_iff.1 hruns]
    rfl
  | noCommand hruns hstart =>
    dsimp only
    rw [ofCommand, hunusable hruns hstart]
    rfl
  | noStages hleft hright =>
    dsimp only
    rw [ofStages, hblank hleft rfl, hblank hright rfl]
  | @oneStage left right ls rs hleft hright hone =>
    dsimp only
    by_cases hnil : ls = []
    · rw [ofStages, hblank hleft hnil, hwords hright (hone.1 hnil)]
    · have hrs : rs = [] := Decidable.byContradiction fun h => hnil (hone.2 h)
      rw [ofStages, hwords hleft hnil, hblank hright hrs]
  | noLeading hleft hright hls hrs hstart =>
    dsimp only
    rw [ofStages, hwords hleft hls, hwords hright hrs, hunusable hleft hstart]
    rfl
  | pipeline hleft hright hrs hstart =>
    dsimp only
    rw [ofStages, hwords hleft (not_nil_of_usable hstart), hwords hright hrs,
      husable hleft hstart, runs_iff.1 hleft, runs_iff.1 hright]
    rfl
  | noRedirected hruns hstart =>
    dsimp only
    rw [ofRedirection, hunusable hruns hstart]
    rfl
  | noTarget hruns hstart =>
    dsimp only
    rw [ofRedirection, husable hruns hstart]
    rfl
  | redirect hruns hstart htarget =>
    have hne : ∀ {t : Text}, t ≠ [] → t.isEmpty = false := fun h => by simpa using h
    dsimp only
    rw [ofRedirection, husable hruns hstart, hne htarget, runs_iff.1 hruns]
    rfl

theorem decides_iff (hcap : 1 ≤ cap) {shape : Shape} {outcome : Except ShellError (Option Plan)} :
    outcomeOf vars cap shape = outcome ↔ Decides vars cap shape outcome := by
  constructor
  · rintro rfl
    obtain ⟨outcome, h⟩ := exists_decides vars cap shape
    rwa [outcomeOf_of_decides hcap h]
  · exact outcomeOf_of_decides hcap

theorem outcomeOf_zero (vars : Text → Option Text) (shape : Shape) :
    outcomeOf vars 0 shape = .ok none := by
  cases shape <;> rfl

/-! ### Well-formed plans -/

/-- The vectors of a plan, the leading one first. -/
def vectors : Plan → List ArgVector
  | .simple args => [args]
  | .pipeline left right => [left, right]
  | .redirect args _ _ => [args]

/-- The target of a plan. -/
def target? : Plan → Option Text
  | .redirect _ target _ => some target
  | _ => none

/-- What can be relied on in a plan. -/
structure WellFormed (cap : Nat) (p : Plan) : Prop where
  /-- The leading command is there and has a name. -/
  command : ∃ name, name ≠ [] ∧ p.leading.slots.head? = some (some name)
  /-- Every stage has a slot, and not more than the cap allows. -/
  slots : ∀ v ∈ p.vectors, v.slots ≠ [] ∧ v.slots.length ≤ cap
  /-- A target has a name without blanks around it, and without what would have ended it. -/
  target : ∀ t ∈ p.target?, t ≠ [] ∧ Trims t t ∧ '#' ∉ t ∧ '|' ∉ t

/-- A vector of words that start usably has a command. -/
theorem command_ofWords (hcap : 1 ≤ cap) {t : Text} (hruns : Runs t ws) (h : Usable vars ws) :
    ∃ name, name ≠ [] ∧ (ofWords vars cap ws).slots.head? = some (some name) := by
  rw [runs_iff.1 hruns] at h ⊢
  have hempty := (isEmpty_ofWords hcap fun w hw => words_nonempty hw).2 h
  unfold isEmpty at hempty
  rw [Option.isNone_eq_false_iff, Option.isSome_iff_exists] at hempty
  obtain ⟨name, hname⟩ := hempty
  exact ⟨name, command?_eq_some_iff.1 hname⟩

theorem slots_ofWords (hcap : 1 ≤ cap) (vars : Text → Option Text) (hne : ws ≠ []) :
    (ofWords vars cap ws).slots ≠ [] ∧ (ofWords vars cap ws).slots.length ≤ cap := by
  constructor
  · have hblank : (ofWords vars cap ws).isBlank ≠ true := fun h => hne ((isBlank_ofWords hcap _).1 h)
    exact fun h => hblank (List.isEmpty_iff.2 h)
  · unfold ofWords
    rw [List.length_map, List.length_take]
    exact Nat.min_le_left _ _

/-- **The plans that the rules make are well formed.** -/
theorem wellFormed_of_decides (hcap : 1 ≤ cap) {shape : Shape} {p : Plan}
    (htarget : ∀ t ∈ shape.target?, Trims t t ∧ '#' ∉ t ∧ '|' ∉ t)
    (h : Decides vars cap shape (.ok (some p))) : p.WellFormed cap := by
  cases h with
  | simple hruns hstart =>
    refine ⟨command_ofWords hcap hruns hstart, ?_, fun _ h => nomatch h⟩
    rintro _ (_ | ⟨_, ⟨⟩⟩)
    exact slots_ofWords hcap _ (not_nil_of_usable hstart)
  | pipeline hleft hright hrs hstart =>
    refine ⟨command_ofWords hcap hleft hstart, ?_, fun _ h => nomatch h⟩
    rintro _ (_ | ⟨_, _ | ⟨_, ⟨⟩⟩⟩)
    · exact slots_ofWords hcap _ (not_nil_of_usable hstart)
    · exact slots_ofWords hcap _ hrs
  | @redirect command t mode ws hruns hstart hne =>
    refine ⟨command_ofWords hcap hruns hstart, ?_, ?_⟩
    · rintro _ (_ | ⟨_, ⟨⟩⟩)
      exact slots_ofWords hcap _ (not_nil_of_usable hstart)
    · rintro _ ⟨⟩
      exact ⟨hne, htarget t rfl⟩

/-- **Planning is decided by words, and every plan is well formed.** With at least one slot the
outcome of a line is the one that the rules give its shape; with none there is nothing to run. -/
theorem ofLine_decides (vars : Text → Option Text) (cap : Nat) (line : Text) :
    (∀ outcome, (ofLine vars (cap + 1) line).outcome = outcome ↔
      Decides vars (cap + 1) (Shape.ofLine line) outcome) ∧
    (ofLine vars 0 line).outcome = .ok none ∧
    ∀ p, (ofLine vars cap line).outcome = .ok (some p) → p.WellFormed cap := by
  obtain ⟨hsegments, htarget⟩ := Shape.ofLine_free line
  have houtcome : ∀ cap, (ofLine vars cap line).outcome =
      outcomeOf vars cap (Shape.ofLine line) :=
    fun cap => ofShape_outcome vars cap hsegments
  refine ⟨fun outcome => ?_, ?_, fun p hp => ?_⟩
  · rw [houtcome]
    exact decides_iff (Nat.le_add_left 1 cap)
  · rw [houtcome]
    exact outcomeOf_zero _ _
  · rw [houtcome] at hp
    cases cap with
    | zero =>
      rw [outcomeOf_zero] at hp
      cases hp
    | succ cap =>
      -- Well-formed plans come from the rules, and there are rules only with a slot.
      have hcap : 1 ≤ cap + 1 := Nat.le_add_left 1 cap
      exact wellFormed_of_decides hcap htarget ((decides_iff hcap).1 hp)

/-- A redirection of a variable whose name holds an equals sign, the target of which stands between
blanks. -/
theorem ofLine_decides_redirect :
    ∃ p, (ofLine (Environment.value? [(Text.lit "X", bytesOf "Y=echo")]) 2
        (Text.lit "$X=Y a b >> t  # c")).outcome = .ok (some p) ∧ p.WellFormed 2 := by
  have houtcome : (ofLine (Environment.value? [(Text.lit "X", bytesOf "Y=echo")]) 2
      (Text.lit "$X=Y a b >> t  # c")).outcome =
        .ok (some (.redirect ⟨[some (Text.lit "echo"), some ['a']]⟩ ['t'] .append)) := by
    rfl
  exact ⟨_, houtcome, (ofLine_decides (Environment.value? [(Text.lit "X", bytesOf "Y=echo")]) 2
    (Text.lit "$X=Y a b >> t  # c")).2.2 _ houtcome⟩

end Plan

end LineShell
