import LineShell.Proofs.Planning
/-!
# Lines that are written

The way back from a plan to a line. `Line.Command` is what somebody who writes a line has in mind,
in words; `Line.Command.Writes` says which lines write it, with any blanks between two words
(`Text.Spaced`), and `Line.Command.Writable` what the words and the target must be free of.

The headline is `Plan.ofLine_written`: planning a written line gives back the command, with each
word replaced by its slot, and drops nothing.
-/

namespace LineShell

variable {ws : List Text} {t target : Text}

/-! ### Spaced words -/

namespace Text

/-- Words one after another, with at least one blank between any two. -/
inductive Spaced : List Text → Text → Prop where
  | one (w : Text) : Spaced [w] w
  | more {w gap t : Text} {ws : List Text} :
    Blanks gap → gap ≠ [] → Spaced ws t → Spaced (w :: ws) (w ++ (gap ++ t))

theorem Spaced.ne_nil (h : Spaced ws t) : ws ≠ [] := by
  cases h <;> exact List.cons_ne_nil _ _

/-- **Spaced words are the words of the text.** -/
theorem Spaced.words_eq (h : Spaced ws t) (hwords : ∀ w ∈ ws, IsWord w) : words t = ws := by
  induction h with
  | one w =>
    have hw : IsWord w := hwords w List.mem_cons_self
    exact words_singleton hw.1 hw.2
  | @more w gap t ws hgap hne _ ih =>
    have hw : IsWord w := hwords w List.mem_cons_self
    obtain ⟨c, gap, rfl⟩ := List.exists_cons_of_ne_nil hne
    have hrest : Blanks gap := fun d hd => hgap d (List.mem_cons_of_mem c hd)
    rw [List.cons_append, words_append_blank (hgap c List.mem_cons_self),
      words_singleton hw.1 hw.2, words_of_blanks hrest,
      ih fun v hv => hwords v (List.mem_cons_of_mem w hv)]
    rfl

/-- What is no blank and in no word is nowhere. -/
theorem Spaced.not_mem {c : Char} (h : Spaced ws t) (hc : isBlank c = false)
    (hfree : ∀ w ∈ ws, c ∉ w) : c ∉ t := by
  induction h with
  | one w => exact hfree w List.mem_cons_self
  | @more w gap t ws hgap _ _ ih =>
    rw [List.mem_append, List.mem_append]
    rintro (hmem | hmem | hmem)
    · exact hfree w List.mem_cons_self hmem
    · rw [hgap c hmem] at hc
      exact Bool.noConfusion hc
    · exact ih (fun v hv => hfree v (List.mem_cons_of_mem w hv)) hmem

end Text

open Text

/-! ### Commands in words -/

namespace Line

/-- What a line is to ask for. -/
inductive Command where
  | simple (ws : List Text)
  | pipeline (left right : List Text)
  | redirect (ws : List Text) (target : Text) (mode : RedirectMode)

/-- Words that fit in a segment. -/
structure Fits (cap : Nat) (ws : List Text) : Prop where
  /-- The cap leaves none of them out. -/
  length : ws.length ≤ cap
  /-- None would be split. -/
  word : ∀ w ∈ ws, IsWord w
  /-- None would start a comment. -/
  comment : ∀ w ∈ ws, '#' ∉ w
  /-- None would end the stage. -/
  bar : ∀ w ∈ ws, '|' ∉ w

/-- Words of which the first has a slot with something in it. -/
def Named (vars : Text → Option Text) (ws : List Text) : Prop :=
  ∃ name, name ≠ [] ∧ (ws.map (ArgVector.slot vars)).head? = some (some name)

/-- A target that a line can end with. -/
structure IsTarget (mode : RedirectMode) (target : Text) : Prop where
  ne_nil : target ≠ []
  /-- There is no blank at either end. -/
  trims : Trims target target
  comment : '#' ∉ target
  bar : '|' ∉ target
  /-- The shorter operator is not found if the longer one is there. -/
  operator : mode = .truncate → ¬['>', '>'] <:+: target

namespace Command

/-- What can be written on a line. -/
def Writable (vars : Text → Option Text) (cap : Nat) : Command → Prop
  | simple ws => Fits cap ws ∧ Named vars ws ∧ ∀ w ∈ ws, '>' ∉ w
  | pipeline left right => Fits cap left ∧ Named vars left ∧ Fits cap right
  | redirect ws target mode =>
    Fits cap ws ∧ Named vars ws ∧ (∀ w ∈ ws, '>' ∉ w) ∧ IsTarget mode target

/-- The lines that write a command. -/
inductive Writes : Command → Text → Prop where
  | simple {ws : List Text} {t : Text} : Spaced ws t → Writes (simple ws) t
  | pipeline {left right : List Text} {l r : Text} :
    Spaced left l → Spaced right r → Writes (pipeline left right) (l ++ '|' :: r)
  | redirect {ws : List Text} {t target : Text} {mode : RedirectMode} :
    Spaced ws t → Writes (redirect ws target mode) (t ++ ' ' :: (mode.operator ++ ' ' :: target))

/-- The plan that a command is for. -/
def plan (vars : Text → Option Text) : Command → Plan
  | simple ws => .simple ⟨ws.map (ArgVector.slot vars)⟩
  | pipeline left right =>
    .pipeline ⟨left.map (ArgVector.slot vars)⟩ ⟨right.map (ArgVector.slot vars)⟩
  | redirect ws target mode => .redirect ⟨ws.map (ArgVector.slot vars)⟩ target mode

end Command

end Line

open Line

/-! ### Shapes of written lines -/

/-- A doubled character stays away from a single one with something else behind it. -/
theorem not_infix_twice {x y : Char} {l r : Text} (hx : x ∉ l) (hy : x ≠ y)
    (h : ¬[x, x] <:+: r) : ¬[x, x] <:+: l ++ x :: y :: r := by
  have hbegins : ∀ {c d : Char} {u : Text}, [x, x] <+: c :: d :: u → x = c ∧ x = d := by
    intro c d u hfound
    rw [List.cons_prefix_cons, List.cons_prefix_cons] at hfound
    exact ⟨hfound.1, hfound.2.1⟩
  induction l with
  | nil =>
    rw [List.nil_append, List.infix_cons_iff, List.infix_cons_iff]
    rintro (hfirst | hsecond | hrest)
    · exact hy (hbegins hfirst).2
    · exact hy (List.cons_prefix_cons.1 hsecond).1
    · exact h hrest
  | cons c l ih =>
    rw [List.cons_append, List.infix_cons_iff]
    rintro (hfirst | hrest)
    · exact hx ((List.cons_prefix_cons.1 hfirst).1 ▸ List.mem_cons_self)
    · exact ih (fun hmem => hx (List.mem_cons_of_mem c hmem)) hrest

namespace Line

/-- A command without an operator is lawful in front of a target and the blanks between. -/
theorem lawful_redirected {mode : RedirectMode} (hbar : '|' ∉ t) (hoperator : '>' ∉ t)
    (h : IsTarget mode target) : (Parts.redirected (t ++ [' ']) (' ' :: target) mode).Lawful := by
  have hcommand : '>' ∉ t ++ [' '] := by simpa using hoperator
  have hfree := h.bar
  cases mode with
  | append =>
    refine ⟨by simp [hbar, hfree], fun hwithin => ?_, fun hends => ?_⟩
    · exact hcommand (hwithin.subset List.mem_cons_self)
    · exact hcommand (hends.subset List.mem_cons_self)
  | truncate =>
    refine ⟨by simp [hbar, hfree], ?_, hcommand⟩
    rw [List.append_assoc, List.singleton_append]
    exact not_infix_twice hcommand (by decide) (h.operator rfl)

end Line

/-- A line without a comment that lawful parts make up has the shape that they are read as. -/
theorem Shape.ofLine_code (parts : Parts) {shape : Shape} (hcomment : '#' ∉ parts.code)
    (hlawful : parts.Lawful) (hreads : parts.Reads shape) : ofLine parts.code = shape := by
  have hcode : parts.code = LineShell.code parts.code :=
    (isCode_iff parts.code parts.code).1 ⟨hcomment, .inl rfl⟩
  unfold ofLine
  rw [← hcode, ofCode_eq_iff, Parts.ofCode_code hlawful]
  exact hreads

/-- A command and a target with the operator between them are read as that. -/
theorem Shape.ofLine_redirected {mode : RedirectMode} (hcomment : '#' ∉ t) (hbar : '|' ∉ t)
    (hoperator : '>' ∉ t) (h : IsTarget mode target) :
    ofLine (t ++ ' ' :: (mode.operator ++ ' ' :: target)) =
      .redirected (t ++ [' ']) target mode := by
  have hsign : '#' ∉ mode.operator := by cases mode <;> decide
  have htrims : Trims (' ' :: target) target :=
    ⟨⟨[' '], [], blanks_of_isAllBlank rfl, blanks_nil, by simp⟩, h.trims.head, h.trims.last⟩
  have hcode : t ++ ' ' :: (mode.operator ++ ' ' :: target) =
      (Parts.redirected (t ++ [' ']) (' ' :: target) mode).code := by simp [Parts.code]
  rw [hcode]
  refine ofLine_code _ ?_ (lawful_redirected hbar hoperator h) ⟨target, htrims, rfl⟩
  simp [Parts.code, hsign, h.comment, hcomment]

/-! ### Vectors of written words -/

namespace ArgVector

variable {vars : Text → Option Text} {cap : Nat}

/-- **A segment of words that fit has the slots of the words**, and none is dropped. -/
theorem ofSegment_of_fits {segment : Text} (hcomment : '#' ∉ segment)
    (hwords : words segment = ws) (hfits : Fits cap ws) :
    ofSegment vars cap segment = ⟨⟨ws.map (slot vars)⟩, 0⟩ := by
  rw [ofSegment_eq, segmentWords_of_free hcomment, hwords, List.take_of_length_le hfits.length,
    List.drop_of_length_le hfits.length]
  rfl

theorem isEmpty_of_named (h : Named vars ws) : isEmpty ⟨ws.map (slot vars)⟩ = false := by
  obtain ⟨name, hname⟩ := h
  unfold isEmpty
  rw [command?_eq_some_iff.2 hname]
  rfl

theorem isBlank_map (hne : ws ≠ []) : isBlank ⟨ws.map (slot vars)⟩ = false := by
  unfold isBlank
  rw [List.isEmpty_eq_false_iff]
  exact fun h => hne (List.map_eq_nil_iff.1 h)

end ArgVector

/-! ### Planning what is written -/

namespace Plan

open ArgVector

variable {vars : Text → Option Text} {cap : Nat}

theorem ofLine_simple (h : Spaced ws t) (hfits : Fits cap ws) (hnamed : Named vars ws)
    (hoperator : ∀ w ∈ ws, '>' ∉ w) :
    ofLine vars cap t = ⟨[], .ok (some (.simple ⟨ws.map (slot vars)⟩))⟩ := by
  have hcomment : '#' ∉ t := h.not_mem (by decide) hfits.comment
  have hshape : Shape.ofLine t = .plain t :=
    Shape.ofLine_code (.plain t) hcomment
      ⟨h.not_mem (by decide) hfits.bar, h.not_mem (by decide) hoperator⟩ rfl
  unfold ofLine ofShape
  rw [hshape]
  dsimp only
  rw [ofSegment_of_fits hcomment (h.words_eq hfits.word) hfits, ofCommand, isEmpty_of_named hnamed]
  rfl

theorem ofLine_pipeline {ls rs : List Text} {l r : Text} (hl : Spaced ls l) (hr : Spaced rs r)
    (hleft : Fits cap ls) (hnamed : Named vars ls) (hright : Fits cap rs) :
    ofLine vars cap (l ++ '|' :: r) =
      ⟨[], .ok (some (.pipeline ⟨ls.map (slot vars)⟩ ⟨rs.map (slot vars)⟩))⟩ := by
  have hlcomment : '#' ∉ l := hl.not_mem (by decide) hleft.comment
  have hrcomment : '#' ∉ r := hr.not_mem (by decide) hright.comment
  have hshape : Shape.ofLine (l ++ '|' :: r) = .piped l r :=
    Shape.ofLine_code (.piped l r none) (by simp [Parts.code, hlcomment, hrcomment])
      ⟨hl.not_mem (by decide) hleft.bar, hr.not_mem (by decide) hright.bar⟩ rfl
  unfold ofLine ofShape
  rw [hshape]
  dsimp only
  rw [ofSegment_of_fits hlcomment (hl.words_eq hleft.word) hleft,
    ofSegment_of_fits hrcomment (hr.words_eq hright.word) hright, ofStages,
    isBlank_map hl.ne_nil, isBlank_map hr.ne_nil, isEmpty_of_named hnamed]
  rfl

theorem ofLine_redirect {mode : RedirectMode} (h : Spaced ws t) (hfits : Fits cap ws)
    (hnamed : Named vars ws) (hoperator : ∀ w ∈ ws, '>' ∉ w) (htarget : IsTarget mode target) :
    ofLine vars cap (t ++ ' ' :: (mode.operator ++ ' ' :: target)) =
      ⟨[], .ok (some (.redirect ⟨ws.map (slot vars)⟩ target mode))⟩ := by
  have hfree : '#' ∉ t := h.not_mem (by decide) hfits.comment
  have hcomment : '#' ∉ t ++ [' '] := by simpa using hfree
  have hwords : words (t ++ [' ']) = ws := by
    rw [words_append t (b := [' ']) (blanks_of_isAllBlank rfl)]
    exact h.words_eq hfits.word
  have hshape := Shape.ofLine_redirected hfree (h.not_mem (by decide) hfits.bar)
    (h.not_mem (by decide) hoperator) htarget
  have hne : target.isEmpty = false := by simpa using htarget.ne_nil
  unfold ofLine ofShape
  rw [hshape]
  dsimp only
  rw [ofSegment_of_fits hcomment hwords hfits, ofRedirection, isEmpty_of_named hnamed, hne]
  rfl

/-- **Planning undoes writing.** Whatever can be written is planned as what it is for, with the slot
of each word in its place and the target as it stands, and without a warning. -/
theorem ofLine_written {c : Command} {line : Text} (hwritable : c.Writable vars cap)
    (hline : c.Writes line) : ofLine vars cap line = ⟨[], .ok (some (c.plan vars))⟩ := by
  cases hline with
  | simple h =>
    obtain ⟨hfits, hnamed, hoperator⟩ := hwritable
    exact ofLine_simple h hfits hnamed hoperator
  | pipeline hl hr =>
    obtain ⟨hleft, hnamed, hright⟩ := hwritable
    exact ofLine_pipeline hl hr hleft hnamed hright
  | redirect h =>
    obtain ⟨hfits, hnamed, hoperator, htarget⟩ := hwritable
    exact ofLine_redirect h hfits hnamed hoperator htarget

/-- A variable whose name holds an equals sign and a word, with blanks of three kinds between them,
and an operator in the target. -/
theorem ofLine_written_redirect :
    ofLine (Environment.value? [(lit "X", bytesOf "Y=echo")]) 2
        (lit "$X=Y \t\u00A0a > b > c") =
      ⟨[], .ok (some (.redirect ⟨[some (lit "echo"), some ['a']]⟩ (lit "b > c") .truncate))⟩ := by
  have hgap : Blanks (lit " \t\u00A0") := blanks_of_isAllBlank rfl
  have hspaced : Spaced [lit "$X=Y", ['a']] (lit "$X=Y \t\u00A0a") :=
    .more hgap (by decide) (.one ['a'])
  have hwords : ∀ w ∈ [lit "$X=Y", ['a']], IsWord w := by simp [IsWord, Text.isBlank, lit]
  have htrims : Trims (lit "b > c") (lit "b > c") :=
    ⟨⟨[], [], blanks_nil, blanks_nil, rfl⟩, by simp [Text.isBlank, lit], by simp [Text.isBlank, lit]⟩
  have htarget : IsTarget .truncate (lit "b > c") :=
    ⟨by decide, htrims, by decide, by decide, fun _ => by decide⟩
  exact ofLine_written (c := .redirect [lit "$X=Y", ['a']] (lit "b > c") .truncate)
    ⟨⟨by decide, hwords, by decide, by decide⟩, ⟨lit "echo", by decide, rfl⟩,
      by decide, htarget⟩ (.redirect hspaced)

end Plan

end LineShell
