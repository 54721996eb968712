import LineShell.Proofs.Lines
/-!
# Blanks at the end of a line

Planning takes no notice of blanks at the end of a line. They may fall into a comment, behind the
last stage, into a segment, which is cut into words, or behind a target, which is trimmed; the two
operators hold no blank, so that they are found where they were.

The headlines are `Plan.ofLine_append` for the plan, `Shell.exec_append` for the whole line, and
`Shell.start_exec_blank` for a line that is nothing but blanks.
-/

namespace LineShell

variable {b : Text}

/-! ### Texts -/

namespace Text

/-- There is nothing but blanks. -/
def Blanks (b : Text) : Prop := ∀ c ∈ b, isBlank c = true

theorem blanks_nil : Blanks [] := fun _ h => absurd h List.not_mem_nil

theorem blanks_of_isAllBlank (h : isAllBlank b = true) : Blanks b := List.all_eq_true.1 h

theorem words_append (t : Text) (h : Blanks b) : words (t ++ b) = words t := by
  induction b generalizing t with
  | nil => rw [List.append_nil]
  | cons c b ih =>
    have hb : Blanks b := fun d hd => h d (List.mem_cons_of_mem c hd)
    have hnone : words b = [] := ih [] hb
    rw [words_append_blank (h c List.mem_cons_self), hnone, List.append_nil]

theorem dropWhile_eq_nil {p : Char → Bool} {y : Text} (h : ∀ c ∈ y, p c = true) :
    y.dropWhile p = [] := by
  have happend : (y ++ []).dropWhile p = List.dropWhile p [] := List.dropWhile_append_of_pos h
  rwa [List.append_nil] at happend

theorem head?_dropWhile (p : Char → Bool) (t : Text) : ∀ c ∈ (t.dropWhile p).head?, p c = false := by
  induction t with
  | nil => exact fun c hc => nomatch hc
  | cons d t ih =>
    rw [List.dropWhile_cons]
    cases hd : p d with
    | true => exact ih
    | false =>
      intro c hc
      cases hc
      exact hd

theorem dropEndWhile_append {p : Char → Bool} {y : Text} (h : ∀ c ∈ y, p c = true) (x : Text) :
    dropEndWhile p (x ++ y) = dropEndWhile p x := by
  unfold dropEndWhile
  rw [List.reverse_append, List.dropWhile_append_of_pos fun c hc => h c (List.mem_reverse.1 hc)]

/-- What is dropped at the end is a run of characters of the class. -/
theorem dropEndWhile_append_eq (p : Char → Bool) (t : Text) :
    ∃ y, (∀ c ∈ y, p c = true) ∧ t = dropEndWhile p t ++ y := by
  refine ⟨(t.reverse.takeWhile p).reverse, fun c hc => ?_, ?_⟩
  · exact List.all_eq_true.1 List.all_takeWhile c (List.mem_reverse.1 hc)
  · unfold dropEndWhile
    rw [← List.reverse_append, List.takeWhile_append_dropWhile, List.reverse_reverse]

theorem trim_append (t : Text) (h : Blanks b) : trim (t ++ b) = trim t := by
  unfold trim
  rw [List.dropWhile_append]
  split
  · rename_i hempty
    rw [dropWhile_eq_nil h, List.isEmpty_iff.1 hempty]
  · exact dropEndWhile_append h _

variable {p : Char → Bool} {x : Text}

/-- A character of a class that holds no blank is found where it was. -/
theorem after_append (h : ∀ c ∈ b, p c = false) :
    after p (x ++ b) = (after p x).map (· ++ b) := by
  unfold after
  rw [List.dropWhile_append]
  cases x.dropWhile fun c => !p c with
  | nil =>
    have hnone : b.dropWhile (fun c => !p c) = [] :=
      dropWhile_eq_nil fun c hc => by rw [h c hc]; rfl
    rw [List.isEmpty_nil, if_pos rfl, hnone]
    rfl
  | cons c rest => rfl

theorem before_append_of_after {rest : Text} (h : after p x = some rest) (y : Text) :
    before p (x ++ y) = before p x := by
  obtain ⟨c, hc, hx⟩ := before_append_after h
  have hbefore : ∀ d ∈ before p x, (!p d) = true := fun d hd => by rw [mem_before hd]; rfl
  conv => lhs; rw [hx]
  unfold before at hbefore ⊢
  rw [List.append_assoc, List.takeWhile_append_of_pos hbefore, List.cons_append,
    List.takeWhile_cons, hc]
  exact List.append_nil _

/-- What is before such a character loses no more than blanks at its end. -/
theorem before_append (p : Char → Bool) (x : Text) (h : Blanks b) :
    ∃ b', Blanks b' ∧ before p (x ++ b) = before p x ++ b' := by
  unfold before
  rw [List.takeWhile_append]
  split
  · rename_i hlength
    have hall : x.takeWhile (fun c => !p c) = x :=
      (List.takeWhile_prefix _).eq_of_length hlength
    exact ⟨_, fun c hc => h c ((List.takeWhile_sublist _).subset hc), by rw [hall]⟩
  · exact ⟨[], blanks_nil, (List.append_nil _).symm⟩

end Text

open Text

/-! ### Cuts -/

/-- An operator without blanks begins a text no later for blanks at its end. -/
theorem prefix_append_iff {operator x : Text} (hoperator : ∀ c ∈ operator, isBlank c = false)
    (h : Blanks b) : operator <+: x ++ b ↔ operator <+: x := by
  constructor
  · intro hbegins
    rcases Nat.le_total operator.length x.length with hle | hle
    · exact List.prefix_of_prefix_length_le hbegins (List.prefix_append x b) hle
    · obtain ⟨t, rfl⟩ := List.prefix_of_prefix_length_le (List.prefix_append x b) hbegins hle
      have ht : t <+: b := (List.prefix_append_right_inj x).1 hbegins
      cases t with
      | nil => exact (List.append_nil x).symm ▸ List.prefix_refl x
      | cons c t =>
        have hblank := h c (ht.subset List.mem_cons_self)
        rw [hoperator c (List.mem_append_right x List.mem_cons_self)] at hblank
        exact absurd hblank (by decide)
  · exact fun hbegins => hbegins.trans (List.prefix_append x b)

theorem cutAt_append {operator : Text} (hne : operator ≠ [])
    (hoperator : ∀ c ∈ operator, isBlank c = false) (x : Text) (h : Blanks b) :
    cutAt operator (x ++ b) = (cutAt operator x).map fun cut => (cut.1, cut.2 ++ b) := by
  induction x with
  | nil =>
    -- No operator within blanks alone.
    have hnone : cutAt operator b = none := by
      rw [cutAt_eq_none_iff]
      intro hwithin
      obtain ⟨c, hc⟩ := List.exists_mem_of_ne_nil operator hne
      have hblank := h c (hwithin.subset hc)
      rw [hoperator c hc] at hblank
      exact absurd hblank (by decide)
    have hnil : cutAt operator [] = none := by
      unfold cutAt
      rw [if_neg (by simpa using hne)]
    rw [List.nil_append, hnone, hnil]
    rfl
  | cons c x ih =>
    have hbegins : operator.isPrefixOf (c :: (x ++ b)) = operator.isPrefixOf (c :: x) := by
      rw [Bool.eq_iff_iff, List.isPrefixOf_iff_prefix, List.isPrefixOf_iff_prefix]
      exact prefix_append_iff (x := c :: x) hoperator h
    rw [List.cons_append]
    unfold cutAt
    rw [hbegins, ih]
    split
    -- The operator was found before the blanks, which go with what is behind it.
    · rename_i hfound
      have hle : operator.length ≤ (c :: x).length :=
        (List.isPrefixOf_iff_prefix.1 hfound).length_le
      rw [← List.cons_append, List.drop_append_of_le_length hle]
      rfl
    · rw [Option.map_map, Option.map_map]
      rfl

theorem RedirectMode.not_blank_operator (mode : RedirectMode) :
    ∀ c ∈ mode.operator, isBlank c = false := by
  have hall : mode.operator.all (fun c => !isBlank c) = true := by cases mode <;> rfl
  intro c hc
  simpa using List.all_eq_true.1 hall c hc

theorem Shape.redirection?_append (mode : RedirectMode) (x : Text) (h : Blanks b) :
    redirection? mode (x ++ b) = redirection? mode x := by
  have hne : mode.operator ≠ [] := by cases mode <;> decide
  unfold redirection?
  rw [cutAt_append hne mode.not_blank_operator x h, Option.map_map]
  cases cutAt mode.operator x with
  | none => rfl
  | some cut =>
    show some (Shape.redirected cut.1 (trim (cut.2 ++ b)) mode) = _
    rw [trim_append cut.2 h]
    rfl

/-! ### Plans -/

theorem code_append (line : Text) (h : Blanks b) :
    ∃ b', Blanks b' ∧ code (line ++ b) = code line ++ b' := before_append _ line h

theorem not_blank_of_blanks {c : Char} (hc : isBlank c = false) (h : Blanks b) :
    ∀ d ∈ b, (d == c) = false := by
  intro d hd
  rw [beq_eq_false_iff_ne]
  rintro rfl
  rw [h d hd] at hc
  exact absurd hc (by decide)

theorem ArgVector.ofSegment_append (vars : Text → Option Text) (cap : Nat) (segment : Text)
    (h : Blanks b) : ofSegment vars cap (segment ++ b) = ofSegment vars cap segment := by
  have hwords : segmentWords (segment ++ b) = segmentWords segment := by
    obtain ⟨b', hb', hcode⟩ := code_append segment h
    unfold segmentWords
    rw [hcode, words_append _ hb']
  unfold ofSegment ofSegmentM
  rw [hwords]

namespace Plan

theorem ofShape_ofCode_append (vars : Text → Option Text) (cap : Nat) (x : Text) (h : Blanks b) :
    ofShape vars cap (Shape.ofCode (x ++ b)) = ofShape vars cap (Shape.ofCode x) := by
  have hbar := after_append (x := x) (not_blank_of_blanks (c := '|') (by decide) h)
  unfold Shape.ofCode
  rw [hbar]
  cases hafter : after (· == '|') x with
  | none =>
    dsimp only [Option.map_none]
    rw [Shape.redirection?_append _ x h, Shape.redirection?_append _ x h]
    cases Shape.redirection? .append x <|> Shape.redirection? .truncate x with
    | none =>
      show ofShape vars cap (.plain (x ++ b)) = ofShape vars cap (.plain x)
      unfold ofShape
      dsimp only
      rw [ArgVector.ofSegment_append vars cap x h]
    | some shape => rfl
  | some rest =>
    -- The blanks end the second stage, or the rest that is dropped behind it.
    obtain ⟨b', hb', hright⟩ := before_append (· == '|') rest h
    dsimp only [Option.map_some]
    rw [before_append_of_after hafter, hright]
    unfold ofShape
    dsimp only
    rw [ArgVector.ofSegment_append vars cap _ hb']

/-- **Blanks at the end of a line change nothing in its plan.** -/
theorem ofLine_append (vars : Text → Option Text) (cap : Nat) (line : Text) (h : Blanks b) :
    ofLine vars cap (line ++ b) = ofLine vars cap line := by
  obtain ⟨b', hb', hcode⟩ := code_append line h
  unfold ofLine Shape.ofLine
  rw [hcode, ofShape_ofCode_append vars cap _ hb']

end Plan

theorem Shape.dropsStage_append (line : Text) (h : Blanks b) :
    dropsStage (line ++ b) = dropsStage line := by
  obtain ⟨b', hb', hcode⟩ := code_append line h
  have hbar := not_blank_of_blanks (c := '|') (by decide) hb'
  unfold dropsStage
  rw [hcode, after_append hbar]
  cases after (· == '|') (code line) with
  | none => rfl
  | some rest =>
    have hnone : b'.contains '|' = false := by
      rw [Bool.eq_false_iff, ne_eq, List.contains_iff_mem]
      intro hmem
      exact absurd (hbar _ hmem) (by decide)
    show (rest ++ b').contains '|' = rest.contains '|'
    rw [List.contains_append, hnone, Bool.or_false]

/-! ### Lines -/

namespace Shell

theorem exec_append (line : Text) (h : Blanks b) : exec (line ++ b) = exec line := by
  have hplan : ∀ maxArgs, plan maxArgs (line ++ b) = plan maxArgs line := by
    intro maxArgs
    unfold plan
    rw [Shape.dropsStage_append line h]
    simp only [Plan.ofLine_append _ _ line h]
  unfold exec
  simp only [hplan]

/-- A line of nothing but blanks does nothing at all. -/
theorem start_exec_blank (h : Blanks b) (shell : Shell) (w : World) :
    ((exec b).start shell).run w = ((.ok .proceed, shell), w) := by
  have hnil : exec b = exec [] := exec_append [] h
  have hplan : planned shell w [] = ⟨[], .ok none⟩ := by
    unfold planned
    cases shell.maxArgs <;> rfl
  rw [hnil, start_exec]
  unfold planRecords
  rw [hplan]
  rfl

end Shell

end LineShell
