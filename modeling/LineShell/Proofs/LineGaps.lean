import LineShell.Proofs.Planning
/-!
# Gaps in a line

A gap is a place in a text where blanks stand or could stand. No operator holds a blank, so that a
gap is on one side of it (`Text.gap_beside`) and no operator comes about by other blanks in it
(`Text.infix_of_put`). What planning makes of a segment does not depend on how long its gaps are
(`ArgVector.segmentWords_exchange`).

`Line.Gap` is a gap in the parts that code is made of. Parts stay lawful when other blanks are put
in a gap, so that they are the parts of that code (`Gap.lawful_put`), and unless the gap is inside
the target they are alike for planning (`Gap.alike_put`, `Plan.ofLine_congr`).
-/

namespace LineShell

open Text

variable {b b' u v x y operator : Text}

/-! ### Gaps in a text -/

namespace Text

/-- A run of blanks with something in it. -/
def IsGap (b : Text) : Prop := b ≠ [] ∧ Blanks b

theorem append_ne_of_blank (hx : IsGap x) (hy : y ≠ []) (hword : ∀ c ∈ y, isBlank c = false)
    (l r : Text) : x ++ l ≠ y ++ r := by
  obtain ⟨c, x, rfl⟩ := List.exists_cons_of_ne_nil hx.1
  obtain ⟨d, y, rfl⟩ := List.exists_cons_of_ne_nil hy
  intro heq
  have hblank := hx.2 c List.mem_cons_self
  rw [(List.cons.inj heq).1, hword d List.mem_cons_self] at hblank
  exact Bool.noConfusion hblank

/-- **A gap is on one side of an operator**, which holds no blank. -/
theorem gap_beside (hne : operator ≠ []) (hoperator : ∀ c ∈ operator, isBlank c = false)
    (hb : IsGap b) {l r : Text} (h : l ++ operator ++ r = x ++ b ++ y) :
    (∃ s, l = x ++ b ++ s ∧ y = s ++ operator ++ r) ∨
      ∃ s, r = s ++ b ++ y ∧ x = l ++ operator ++ s := by
  rw [List.append_assoc, List.append_assoc] at h
  rcases List.append_eq_append_iff.1 h with ⟨s, hx, hrest⟩ | ⟨s, hl, hrest⟩
  · rcases List.append_eq_append_iff.1 hrest with ⟨s', hs, hr⟩ | ⟨s', hs, hr⟩
    · exact .inr ⟨s', by rw [hr, List.append_assoc], by rw [hx, hs, List.append_assoc]⟩
    -- The gap would begin within the operator, which holds no blank.
    · by_cases hnil : s' = []
      · subst hnil
        rw [List.append_nil] at hs
        exact .inr ⟨[], hr.symm, by rw [hx, hs, List.append_nil]⟩
      · refine absurd hr (append_ne_of_blank hb hnil (fun c hc => hoperator c ?_) y r)
        exact hs ▸ List.mem_append_right s hc
  · rcases List.append_eq_append_iff.1 hrest with ⟨s', hs, hy⟩ | ⟨s', hs, hy⟩
    · exact .inl ⟨s', by rw [hl, hs, List.append_assoc], by rw [hy, List.append_assoc]⟩
    · by_cases hnil : s' = []
      · subst hnil
        rw [List.append_nil] at hs
        exact .inl ⟨[], by rw [hl, hs, List.append_nil], hy.symm⟩
      · have hgap : IsGap s' := ⟨hnil, fun c hc => hb.2 c (hs ▸ List.mem_append_right s hc)⟩
        exact absurd hy.symm (append_ne_of_blank hgap hne hoperator y r)

theorem infix_of_beside (b : Text) (h : operator <:+: u ∨ operator <:+: v) :
    operator <:+: u ++ b ++ v := by
  rcases h with hu | hv
  · exact hu.trans ⟨[], b ++ v, by rw [List.nil_append, List.append_assoc]⟩
  · exact hv.trans ⟨u ++ b, [], List.append_nil _⟩

/-- **An operator that stands in a text with other blanks put in stood there before**, unless blanks
were taken out altogether. -/
theorem infix_of_put (hne : operator ≠ []) (hoperator : ∀ c ∈ operator, isBlank c = false)
    (hb' : Blanks b') (hput : b = [] ∨ b' ≠ []) (h : operator <:+: u ++ b' ++ v) :
    operator <:+: u ++ b ++ v := by
  by_cases hnil : b' = []
  · obtain rfl : b = [] := hput.resolve_right (absurd hnil)
    rwa [hnil] at h
  · obtain ⟨l, r, h⟩ := h
    refine infix_of_beside b ?_
    rcases gap_beside hne hoperator ⟨hnil, hb'⟩ h with ⟨s, -, hv⟩ | ⟨s, -, hu⟩
    · exact .inr ⟨s, r, hv.symm⟩
    · exact .inl ⟨l, s, hu.symm⟩

theorem not_mem_of_blanks {c : Char} (hc : isBlank c = false) (hb : Blanks b) : c ∉ b := fun h => by
  rw [hb c h] at hc
  exact Bool.noConfusion hc

theorem mem_of_put {c : Char} (hc : isBlank c = false) (hb' : Blanks b')
    (h : c ∈ u ++ b' ++ v) : c ∈ u ++ b ++ v := by
  have hnot : c ∉ b' := not_mem_of_blanks hc hb'
  simp only [List.mem_append, hnot, or_false] at h ⊢
  exact h.imp_left .inl

theorem suffix_of_put {c : Char} (hc : isBlank c = false) (hb' : Blanks b')
    (hput : b = [] ∨ b' ≠ []) (h : [c] <:+ u ++ b' ++ v) : [c] <:+ u ++ b ++ v := by
  by_cases hnil : b' = []
  · obtain rfl : b = [] := hput.resolve_right (absurd hnil)
    rwa [hnil] at h
  · obtain ⟨l, hl⟩ := h
    rw [← List.append_nil (l ++ [c])] at hl
    have hword : ∀ d ∈ [c], isBlank d = false := fun d hd => List.mem_singleton.1 hd ▸ hc
    rcases gap_beside (List.cons_ne_nil c []) hword ⟨hnil, hb'⟩ hl with ⟨s, -, hv⟩ | ⟨s, hend, -⟩
    · exact ⟨u ++ b ++ s, by rw [hv, List.append_nil, List.append_assoc (u ++ b)]⟩
    · exact absurd (List.append_eq_nil_iff.1 (List.append_eq_nil_iff.1 hend.symm).1).2 hnil

/-- A gap ends the word before it. -/
theorem words_gap (hb : IsGap b) (u v : Text) : words (u ++ b ++ v) = words u ++ words v := by
  obtain ⟨hne, hblanks⟩ := hb
  obtain ⟨c, b, rfl⟩ := List.exists_cons_of_ne_nil hne
  rw [List.append_assoc, List.cons_append, words_append_blank (hblanks c List.mem_cons_self),
    words_of_blanks fun d hd => hblanks d (List.mem_cons_of_mem c hd)]

/-- The gap has only blanks before it or only blanks behind it. -/
def Edge (u v : Text) : Prop := Blanks u ∨ Blanks v

theorem words_edge (h : Edge u v) (hb : Blanks b) : words (u ++ b ++ v) = words (u ++ v) := by
  rcases h with hu | hv
  · rw [List.append_assoc, words_of_blanks hu, words_of_blanks hb, words_of_blanks hu]
  · rw [words_append _ hv, words_append _ hb, words_append _ hv]

theorem trim_edge (h : Edge u v) (hb : Blanks b) : trim (u ++ b ++ v) = trim (u ++ v) := by
  rcases h with hu | hv
  · rw [List.append_assoc, trim_of_blanks hu, trim_of_blanks hb, trim_of_blanks hu]
  · rw [trim_append _ hv, trim_append _ hb, trim_append _ hv]

/-- Blanks that can be put for one another between two parts of a segment. -/
def Exchanges (u v b b' : Text) : Prop := (IsGap b ∧ IsGap b') ∨ (Edge u v ∧ Blanks b ∧ Blanks b')

theorem Exchanges.words_eq (h : Exchanges u v b b') :
    words (u ++ b ++ v) = words (u ++ b' ++ v) := by
  rcases h with ⟨hb, hb'⟩ | ⟨hedge, hb, hb'⟩
  · rw [words_gap hb, words_gap hb']
  · rw [words_edge hedge hb, words_edge hedge hb']

theorem Exchanges.blanks (h : Exchanges u v b b') : Blanks b ∧ Blanks b' := by
  rcases h with ⟨hb, hb'⟩ | ⟨-, hb, hb'⟩
  · exact ⟨hb.2, hb'.2⟩
  · exact ⟨hb, hb'⟩

theorem head_of_put (hb : IsGap b) (h : ∀ c ∈ (u ++ b ++ v).head?, isBlank c = false) :
    ∀ c ∈ (u ++ b' ++ v).head?, isBlank c = false := by
  cases u with
  | nil =>
    obtain ⟨hne, hblanks⟩ := hb
    obtain ⟨c, b, rfl⟩ := List.exists_cons_of_ne_nil hne
    have hblank := h c rfl
    rw [hblanks c List.mem_cons_self] at hblank
    exact Bool.noConfusion hblank
  | cons c u => exact h

theorem last_of_put (hb : IsGap b) (h : ∀ c ∈ (u ++ b ++ v).getLast?, isBlank c = false) :
    ∀ c ∈ (u ++ b' ++ v).getLast?, isBlank c = false := by
  have hreverse : ∀ t : Text,
      (u ++ t ++ v).getLast? = (v.reverse ++ t.reverse ++ u.reverse).head? := by
    intro t
    rw [← List.head?_reverse, List.reverse_append, List.reverse_append, List.append_assoc]
  have hgap : IsGap b.reverse :=
    ⟨List.reverse_ne_nil_iff.2 hb.1, fun c hc => hb.2 c (List.mem_reverse.1 hc)⟩
  rw [hreverse] at h ⊢
  exact head_of_put hgap h

/-- A text that is not blank on either side of a gap is trimmed on the other sides only. -/
theorem trims_gap (hu : ¬Blanks u) (hv : ¬Blanks v) (b : Text) :
    ∃ lead u' v' trail, Blanks lead ∧ Blanks trail ∧ u = lead ++ u' ∧ v = v' ++ trail ∧
      Trims (u ++ b ++ v) (u' ++ b ++ v') := by
  -- What is not blank is not trimmed away.
  have hne : ∀ {t}, ¬Blanks t → trim t ≠ [] := by
    intro t hnot hnil
    obtain ⟨⟨l, r, hl, hr, ht⟩, -, -⟩ := (trims_iff t _).2 rfl
    rw [hnil, List.append_nil] at ht
    refine hnot fun c hc => ?_
    rw [ht] at hc
    exact (List.mem_append.1 hc).elim (hl c) (hr c)
  obtain ⟨⟨l, r, hl, hr, hu'⟩, hhead, -⟩ := (trims_iff u _).2 rfl
  obtain ⟨⟨l', r', hl', hr', hv'⟩, -, hlast⟩ := (trims_iff v _).2 rfl
  refine ⟨l, trim u ++ r, l' ++ trim v, r', hl, hr', ?_, ?_, ⟨l, r', hl, hr', ?_⟩, ?_, ?_⟩
  · rw [← List.append_assoc]
    exact hu'
  · exact hv'
  · conv => lhs; rw [hu', hv']
    simp only [List.append_assoc]
  · obtain ⟨c, t, ht⟩ := List.exists_cons_of_ne_nil (hne hu)
    rw [ht] at hhead ⊢
    exact hhead
  · rw [List.getLast?_eq_some_getLast (hne hv)] at hlast
    rw [List.getLast?_append, List.getLast?_append, List.getLast?_eq_some_getLast (hne hv)]
    exact hlast

/-! ### Texts and comments -/

variable {p : Char → Bool}

theorem before_append_cons {c : Char} (hc : p c = true) (x y : Text) :
    before p (x ++ c :: y) = before p x := by
  induction x with
  | nil => simp [before, hc]
  | cons d x ih =>
    unfold before at ih ⊢
    rw [List.cons_append, List.takeWhile_cons, List.takeWhile_cons, ih]

theorem before_append_of_free (h : ∀ c ∈ x, p c = false) (y : Text) :
    before p (x ++ y) = x ++ before p y :=
  List.takeWhile_append_of_pos fun c hc => by rw [h c hc]; rfl

theorem after_append_of_after {rest : Text} (h : after p x = some rest) (y : Text) :
    after p (x ++ y) = some (rest ++ y) := by
  unfold after at h ⊢
  rw [List.dropWhile_append]
  cases hdrop : x.dropWhile (fun c => !p c) with
  | nil =>
    rw [hdrop] at h
    cases h
  | cons c t =>
    rw [hdrop] at h
    cases h
    rfl

end Text

theorem code_append_comment (line comment : Text) : code (line ++ '#' :: comment) = code line :=
  before_append_cons rfl line comment

/-- What stands behind a text is code if the comment does not start in the text. -/
theorem code_append_of_free (h : '#' ∉ x) (y : Text) : code (x ++ y) = x ++ code y :=
  before_append_of_free (fun c hc => beq_eq_false_iff_ne.2 fun (heq : c = '#') => h (heq ▸ hc)) y

theorem code_append_of_mem (h : '#' ∈ x) (y : Text) : code (x ++ y) = code x := by
  obtain ⟨l, r, rfl⟩ := List.append_of_mem h
  rw [List.append_assoc, List.cons_append, code_append_comment, code_append_comment]

theorem code_append_gap (h : '#' ∉ x) (hb : Blanks b) (y : Text) :
    code (x ++ b ++ y) = x ++ b ++ code y := by
  have hfree : '#' ∉ b := not_mem_of_blanks (by decide) hb
  exact code_append_of_free (by simp [h, hfree]) y

/-- The gaps of a segment may be of any length. -/
theorem ArgVector.segmentWords_exchange (h : Exchanges u v b b') :
    segmentWords (u ++ b ++ v) = segmentWords (u ++ b' ++ v) := by
  unfold segmentWords
  by_cases hcomment : '#' ∈ u
  · rw [List.append_assoc, List.append_assoc, code_append_of_mem hcomment,
      code_append_of_mem hcomment]
  · have hexchanges : Exchanges u (code v) b b' := by
      refine h.imp_right fun ⟨hedge, hboth⟩ => ⟨hedge.imp_right fun hv => ?_, hboth⟩
      exact fun c hc => hv c ((List.takeWhile_sublist _).subset hc)
    rw [code_append_gap hcomment h.blanks.1, code_append_gap hcomment h.blanks.2,
      hexchanges.words_eq]

/-! ### Parts that planning takes for the same -/

namespace Line

open ArgVector

namespace Parts

/-- Parts of the same kind with the same words in their segments and the same target. -/
inductive Alike : Parts → Parts → Prop
  | plain {c c' : Text} : segmentWords c = segmentWords c' → Alike (plain c) (plain c')
  | piped {l l' r r' : Text} {dropped dropped' : Option Text} :
    segmentWords l = segmentWords l' → segmentWords r = segmentWords r' →
    Alike (piped l r dropped) (piped l' r' dropped')
  | redirected {c c' t t' : Text} {mode : RedirectMode} :
    segmentWords c = segmentWords c' → trim t = trim t' →
    Alike (redirected c t mode) (redirected c' t' mode)

theorem Alike.refl (parts : Parts) : Alike parts parts := by
  cases parts with
  | plain => exact .plain rfl
  | piped => exact .piped rfl rfl
  | redirected => exact .redirected rfl rfl

theorem Alike.trans {p q r : Parts} (h : Alike p q) (h' : Alike q r) : Alike p r := by
  cases h with
  | plain hc =>
    cases h' with
    | plain hc' => exact .plain (hc.trans hc')
  | piped hl hr =>
    cases h' with
    | piped hl' hr' => exact .piped (hl.trans hl') (hr.trans hr')
  | redirected hc ht =>
    cases h' with
    | redirected hc' ht' => exact .redirected (hc.trans hc') (ht.trans ht')

end Parts

end Line

open Line

theorem ArgVector.ofSegment_congr (vars : Text → Option Text) (cap : Nat) {s s' : Text}
    (h : segmentWords s = segmentWords s') : ofSegment vars cap s = ofSegment vars cap s' := by
  rw [ofSegment_eq, ofSegment_eq, h]

/-- **Lines of parts that are alike are planned alike.** -/
theorem Plan.ofLine_congr (vars : Text → Option Text) (cap : Nat) {line line' : Text}
    (h : (Parts.ofCode (code line)).Alike (Parts.ofCode (code line'))) :
    ofLine vars cap line = ofLine vars cap line' := by
  -- The shape is what the parts say, and only these are alike.
  have hreads := (Shape.ofCode_eq_iff (code line)).1 rfl
  have hreads' := (Shape.ofCode_eq_iff (code line')).1 rfl
  unfold ofLine Shape.ofLine
  generalize Shape.ofCode (code line) = shape at hreads ⊢
  generalize Shape.ofCode (code line') = shape' at hreads' ⊢
  generalize Parts.ofCode (code line) = parts at h hreads
  generalize Parts.ofCode (code line') = parts' at h hreads'
  cases h with
  | plain hc =>
    obtain rfl := hreads
    obtain rfl := hreads'
    unfold ofShape
    dsimp only
    rw [ArgVector.ofSegment_congr vars cap hc]
  | piped hl hr =>
    obtain rfl := hreads
    obtain rfl := hreads'
    unfold ofShape
    dsimp only
    rw [ArgVector.ofSegment_congr vars cap hl, ArgVector.ofSegment_congr vars cap hr]
  | redirected hc ht =>
    obtain ⟨t, htrims, rfl⟩ := hreads
    obtain ⟨t', htrims', rfl⟩ := hreads'
    unfold ofShape
    dsimp only
    rw [ArgVector.ofSegment_congr vars cap hc, (trims_iff _ _).1 htrims, ht,
      ← (trims_iff _ _).1 htrims']

/-! ### Gaps in the parts of code -/

namespace Line

/-- A place in the parts of code, with what stands before and behind it in the same part. -/
inductive Gap where
  | plain (u v : Text)
  | left (u v r : Text) (d : Option Text)
  | right (l u v : Text) (d : Option Text)
  | dropped (l r u v : Text)
  | command (u v t : Text) (mode : RedirectMode)
  | behind (c u v : Text) (mode : RedirectMode)

namespace Gap

/-- The parts with something put in the gap. -/
def put : Gap → Text → Parts
  | plain u v, x => .plain (u ++ x ++ v)
  | left u v r d, x => .piped (u ++ x ++ v) r d
  | right l u v d, x => .piped l (u ++ x ++ v) d
  | dropped l r u v, x => .piped l r (some (u ++ x ++ v))
  | command u v t mode, x => .redirected (u ++ x ++ v) t mode
  | behind c u v mode, x => .redirected c (u ++ x ++ v) mode

/-- The code before the gap. -/
def front : Gap → Text
  | plain u _ | left u _ _ _ | command u _ _ _ => u
  | right l u _ _ => l ++ '|' :: u
  | dropped l r u _ => l ++ '|' :: (r ++ '|' :: u)
  | behind c u _ mode => c ++ mode.operator ++ u

/-- The code behind the gap. -/
def rear : Gap → Text
  | plain _ v | dropped _ _ _ v | behind _ _ v _ | right _ _ v none => v
  | left _ v r d => (Parts.piped v r d).code
  | right _ _ v (some d) => v ++ '|' :: d
  | command _ v t mode => v ++ mode.operator ++ t

theorem code_put (gap : Gap) (x : Text) : (gap.put x).code = gap.front ++ x ++ gap.rear := by
  cases gap with
  | left u v r d => cases d <;> simp [put, front, rear, Parts.code]
  | right l u v d => cases d <;> simp [put, front, rear, Parts.code]
  | _ => simp [put, front, rear, Parts.code]

theorem not_blank_bar : ∀ c ∈ ['|'], isBlank c = false := by
  intro c hc
  rw [List.mem_singleton.1 hc]
  rfl

/-- **Every gap in the code is in one of its parts.** -/
theorem exists_put (hb : IsGap b) {parts : Parts} (h : parts.code = x ++ b ++ y) :
    ∃ gap : Gap, gap.front = x ∧ gap.rear = y ∧ gap.put b = parts := by
  -- Each part begins behind an operator, and the gap is before or behind it.
  have hbar : ∀ {l r : Text}, l ++ '|' :: r = l ++ ['|'] ++ r := by simp
  match parts, h with
  | .plain _, h => exact ⟨plain x y, rfl, rfl, congrArg Parts.plain h.symm⟩
  | .piped l r none, h =>
    rw [Parts.code, hbar] at h
    rcases gap_beside (List.cons_ne_nil _ _) not_blank_bar hb h with ⟨s, rfl, rfl⟩ | ⟨s, rfl, rfl⟩
    · exact ⟨left x s r none, rfl, by simp [rear, Parts.code], rfl⟩
    · exact ⟨right l s y none, by simp [front], rfl, rfl⟩
  | .piped l r (some d), h =>
    rw [Parts.code, hbar] at h
    rcases gap_beside (List.cons_ne_nil _ _) not_blank_bar hb h with ⟨s, rfl, rfl⟩ | ⟨s, hrest, rfl⟩
    · exact ⟨left x s r (some d), rfl, by simp [rear, Parts.code], rfl⟩
    -- With more stages the rest has an operator of its own.
    · rw [hbar] at hrest
      rcases gap_beside (List.cons_ne_nil _ _) not_blank_bar hb hrest with
        ⟨s', rfl, rfl⟩ | ⟨s', rfl, rfl⟩
      · exact ⟨right l s s' (some d), by simp [front], by simp [rear], rfl⟩
      · exact ⟨dropped l r s' y, by simp [front], rfl, rfl⟩
  | .redirected c t mode, h =>
    have hne : mode.operator ≠ [] := by cases mode <;> decide
    rcases gap_beside hne mode.not_blank_operator hb h with ⟨s, rfl, rfl⟩ | ⟨s, rfl, rfl⟩
    · exact ⟨command x s t mode, rfl, rfl, rfl⟩
    · exact ⟨behind c s y mode, rfl, rfl, rfl⟩

/-- **Parts stay lawful when other blanks are put in a gap**, unless the gap is closed. -/
theorem lawful_put (gap : Gap) (hb' : Blanks b') (hput : b = [] ∨ b' ≠ [])
    (h : (gap.put b).Lawful) : (gap.put b').Lawful := by
  have hmem : ∀ {c : Char}, isBlank c = false → ∀ {u v : Text}, c ∉ u ++ b ++ v →
      c ∉ u ++ b' ++ v := fun hc _ _ hnot hmem => hnot (mem_of_put hc hb' hmem)
  have hinfix : ∀ {u v : Text}, ¬['>', '>'] <:+: u ++ b ++ v → ¬['>', '>'] <:+: u ++ b' ++ v :=
    fun hnot hwithin =>
      hnot (infix_of_put (by decide) (RedirectMode.not_blank_operator .append) hb' hput hwithin)
  have hsuffix : ∀ {u v : Text}, ¬['>'] <:+ u ++ b ++ v → ¬['>'] <:+ u ++ b' ++ v :=
    fun hnot hends => hnot (suffix_of_put (by decide) hb' hput hends)
  -- what is asked of the whole code is asked of a text with the same gap
  have hbarCode : ∀ gap : Gap, '|' ∉ (gap.put b).code → '|' ∉ (gap.put b').code := by
    intro gap hnot
    rw [code_put] at hnot ⊢
    exact hmem (by decide) hnot
  have hdoubleCode : ∀ gap : Gap,
      ¬['>', '>'] <:+: (gap.put b).code → ¬['>', '>'] <:+: (gap.put b').code := by
    intro gap hnot
    rw [code_put] at hnot ⊢
    exact hinfix hnot
  match gap, h with
  | plain u v, ⟨hbar, hoperator⟩ => exact ⟨hmem (by decide) hbar, hmem (by decide) hoperator⟩
  | left u v r d, ⟨hleft, hright⟩ => exact ⟨hmem (by decide) hleft, hright⟩
  | right l u v d, ⟨hleft, hright⟩ => exact ⟨hleft, hmem (by decide) hright⟩
  | dropped l r u v, h => exact h
  | command u v t .append, ⟨hbar, hdouble, hhalf⟩ =>
    exact ⟨hbarCode (command u v t .append) hbar, hinfix hdouble, hsuffix hhalf⟩
  | command u v t .truncate, ⟨hbar, hdouble, hsingle⟩ =>
    exact ⟨hbarCode (command u v t .truncate) hbar, hdoubleCode (command u v t .truncate) hdouble,
      hmem (by decide) hsingle⟩
  | behind c u v .append, ⟨hbar, hdouble, hhalf⟩ =>
    exact ⟨hbarCode (behind c u v .append) hbar, hdouble, hhalf⟩
  | behind c u v .truncate, ⟨hbar, hdouble, hsingle⟩ =>
    exact ⟨hbarCode (behind c u v .truncate) hbar, hdoubleCode (behind c u v .truncate) hdouble,
      hsingle⟩

/-- Blanks that can be put for one another in the gap: in a target only at its edge. -/
def Exchanges : Gap → Text → Text → Prop
  | plain u v, b, b' | left u v _ _, b, b' | right _ u v _, b, b' | dropped _ _ u v, b, b'
  | command u v _ _, b, b' => Text.Exchanges u v b b'
  | behind _ u v _, b, b' => Edge u v ∧ Blanks b ∧ Blanks b'

/-- **Parts are alike whatever blanks of an exchange are put in a gap.** -/
theorem alike_put {gap : Gap} (h : gap.Exchanges b b') : (gap.put b).Alike (gap.put b') := by
  match gap, h with
  | plain u v, h => exact .plain (ArgVector.segmentWords_exchange h)
  | left u v r d, h => exact .piped (ArgVector.segmentWords_exchange h) rfl
  | right l u v d, h => exact .piped rfl (ArgVector.segmentWords_exchange h)
  | dropped l r u v, _ => exact .piped rfl rfl
  | command u v t mode, h => exact .redirected (ArgVector.segmentWords_exchange h) rfl
  | behind c u v mode, ⟨hedge, hb, hb'⟩ =>
    exact .redirected rfl (by rw [trim_edge hedge hb, trim_edge hedge hb'])

theorem exchanges_of_isGap {gap : Gap} (hb : IsGap b) (hb' : IsGap b')
    (h : ∀ c u v mode, gap = behind c u v mode → Edge u v) : gap.Exchanges b b' := by
  cases gap with
  | behind c u v mode => exact ⟨h c u v mode rfl, hb.2, hb'.2⟩
  | _ => exact .inl ⟨hb, hb'⟩

end Gap

namespace Parts

variable {parts : Parts}

theorem alike_ofCode {parts' : Parts} (hlawful : parts'.Lawful) (hcode : parts'.code = x)
    (h : parts.Alike parts') : parts.Alike (ofCode x) := by
  rw [← hcode, ofCode_code hlawful]
  exact h

/-- Blanks may stand in front of code. -/
theorem alike_of_blanks (hlawful : parts.Lawful) (hb : Blanks b) :
    parts.Alike (ofCode (b ++ parts.code)) := by
  have hfirst : ∃ gap : Gap, gap.put [] = parts ∧ gap.front = [] ∧ gap.Exchanges [] b := by
    have hexchanges : ∀ v, Exchanges [] v [] b := fun v => .inr ⟨.inl blanks_nil, blanks_nil, hb⟩
    cases parts with
    | plain c => exact ⟨.plain [] c, rfl, rfl, hexchanges c⟩
    | piped l r d => exact ⟨.left [] l r d, rfl, rfl, hexchanges l⟩
    | redirected c t mode => exact ⟨.command [] c t mode, rfl, rfl, hexchanges c⟩
  obtain ⟨gap, rfl, hfront, hexchanges⟩ := hfirst
  refine alike_ofCode (gap.lawful_put hb (.inl rfl) hlawful) ?_ (Gap.alike_put hexchanges)
  rw [gap.code_put, gap.code_put, hfront]
  rfl

/-- The code is split on an operator, with a text before it and another behind it. -/
def SplitsAt (parts : Parts) (x operator : Text) : Prop :=
  (operator = ['|'] ∧ ∃ r d, parts = piped x r d) ∨
    ∃ t mode, operator = mode.operator ∧ parts = redirected x t mode

theorem SplitsAt.begins (h : parts.SplitsAt x operator) : x ++ operator <+: parts.code := by
  rcases h with ⟨rfl, r, d, rfl⟩ | ⟨t, mode, rfl, rfl⟩
  · cases d with
    | none => exact ⟨r, List.append_assoc x ['|'] r⟩
    | some d => exact ⟨r ++ '|' :: d, List.append_assoc x ['|'] (r ++ '|' :: d)⟩
  · exact ⟨t, rfl⟩

/-- Blanks may stand on both sides of the operator that code is split on. -/
theorem alike_of_splitsAt (hlawful : parts.Lawful) (h : parts.SplitsAt x operator)
    (hcode : parts.code = x ++ operator ++ y) (hb : Blanks b) (hb' : Blanks b') :
    parts.Alike (ofCode (x ++ b ++ operator ++ b' ++ y)) := by
  -- the blanks are put in on the left first, and then on the right
  have htwo : ∃ gap gap' : Gap, gap.put [] = parts ∧ gap'.put [] = gap.put b ∧
      gap.Exchanges [] b ∧ gap'.Exchanges [] b' ∧
      (gap'.put b').code = x ++ b ++ operator ++ b' ++ y := by
    have hleft : Exchanges x [] [] b := .inr ⟨.inr blanks_nil, blanks_nil, hb⟩
    rcases h with ⟨rfl, r, d, rfl⟩ | ⟨t, mode, rfl, rfl⟩
    · refine ⟨.left x [] r d, .right (x ++ b) [] r d, ?_, ?_, hleft,
        .inr ⟨.inl blanks_nil, blanks_nil, hb'⟩, ?_⟩
      · simp [Gap.put]
      · simp [Gap.put]
      · cases d <;> simpa [Gap.put, code] using hcode
    · refine ⟨.command x [] t mode, .behind (x ++ b) [] t mode, ?_, ?_, hleft,
        ⟨.inl blanks_nil, blanks_nil, hb'⟩, ?_⟩
      · simp [Gap.put]
      · simp [Gap.put]
      · simpa [Gap.put, code] using hcode
  obtain ⟨gap, gap', rfl, hnext, hexchanges, hexchanges', hcode'⟩ := htwo
  have hlawful' : (gap'.put b').Lawful :=
    gap'.lawful_put hb' (.inl rfl) (hnext ▸ gap.lawful_put hb (.inl rfl) hlawful)
  exact alike_ofCode hlawful' hcode'
    ((Gap.alike_put hexchanges).trans (hnext ▸ Gap.alike_put hexchanges'))

end Parts

end Line

end LineShell
