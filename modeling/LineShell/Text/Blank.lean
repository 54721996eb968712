import LineShell.Text.Basic
/-!
# Blanks and words

A *blank* is a character with the Unicode property White_Space. The *words* of a text are its
maximal runs of characters that are not blank, and `trim` takes the blanks off both ends.

`pieces` splits at every character of a class and keeps empty pieces; `words` are the pieces that
are not empty. Main statements: `words_nonempty` and `words_noBlank` (a word is a non-empty run
without blanks), `words_append_blank` (words split at a blank), `words_singleton` (a run without
blanks is one word) and `isBlank_of_isWhitespace` (the class holds the ASCII blanks).
-/

namespace LineShell.Text

/-- The characters with the property White_Space. -/
def isBlank (c : Char) : Bool :=
  let n := c.toNat
  (9 ≤ n && n ≤ 13) || n == 0x20 || n == 0x85 || n == 0xA0 || n == 0x1680 ||
    (0x2000 ≤ n && n ≤ 0x200A) || n == 0x2028 || n == 0x2029 || n == 0x202F || n == 0x205F ||
    n == 0x3000

/-- The pieces of a text between the characters of a class, empty ones included; never no piece. -/
def pieces (p : Char → Bool) (t : Text) : List Text :=
  t.foldr (fun c acc =>
    if p c then [] :: acc
    else match acc with
      | [] => [[c]]
      | piece :: rest => (c :: piece) :: rest) [[]]

/-- The maximal runs of characters that are not blank, in order. -/
def words (t : Text) : List Text := (pieces isBlank t).filter (fun piece => !piece.isEmpty)

/-- The text without the blanks at its two ends. -/
def trim (t : Text) : Text := dropEndWhile isBlank (t.dropWhile isBlank)

/-- Whether there is nothing but blanks. -/
def isAllBlank (t : Text) : Bool := t.all isBlank

theorem isBlank_of_isWhitespace {c : Char} (h : c.isWhitespace = true) : isBlank c = true := by
  simp only [Char.isWhitespace, Bool.or_eq_true, decide_eq_true_eq] at h
  rcases h with ((h | h) | h) | h <;> subst h <;> decide

@[simp] theorem pieces_nil (p : Char → Bool) : pieces p [] = [[]] := rfl

theorem pieces_ne_nil (p : Char → Bool) (t : Text) : pieces p t ≠ [] := by
  cases t with
  | nil => simp
  | cons c t =>
    simp only [pieces, List.foldr_cons]
    split
    · simp
    · split <;> simp

theorem pieces_cons_of_true {p : Char → Bool} {c : Char} (h : p c = true) (t : Text) :
    pieces p (c :: t) = [] :: pieces p t := by
  simp [pieces, h]

theorem pieces_cons_of_false {p : Char → Bool} {c : Char} (h : p c = false) (t : Text) :
    ∃ piece rest, pieces p t = piece :: rest ∧ pieces p (c :: t) = (c :: piece) :: rest := by
  cases hp : pieces p t with
  | nil => exact absurd hp (pieces_ne_nil p t)
  | cons piece rest =>
    refine ⟨piece, rest, rfl, ?_⟩
    simp only [pieces, List.foldr_cons, h]
    simp only [pieces] at hp
    simp [hp]

/-- No piece holds a character of the class. -/
theorem mem_pieces {p : Char → Bool} {t piece : Text} (h : piece ∈ pieces p t) :
    ∀ c ∈ piece, p c = false := by
  induction t generalizing piece with
  | nil => simp_all
  | cons c t ih =>
    cases hc : p c with
    | true =>
      rw [pieces_cons_of_true hc] at h
      rcases List.mem_cons.1 h with rfl | h
      · simp
      · exact ih h
    | false =>
      obtain ⟨q, rest, hq, heq⟩ := pieces_cons_of_false hc t
      rw [heq] at h
      rcases List.mem_cons.1 h with rfl | h
      · intro d hd
        rcases List.mem_cons.1 hd with rfl | hd
        · exact hc
        · exact ih (hq ▸ List.mem_cons_self) d hd
      · exact ih (hq ▸ List.mem_cons_of_mem _ h)

theorem words_nonempty {t w : Text} (h : w ∈ words t) : w ≠ [] := by
  have := (List.mem_filter.1 h).2
  simpa [List.isEmpty_iff] using this

theorem words_noBlank {t w : Text} (h : w ∈ words t) : ∀ c ∈ w, isBlank c = false :=
  mem_pieces (List.mem_filter.1 h).1

@[simp] theorem words_nil : words [] = [] := rfl

theorem words_cons_blank {c : Char} (h : isBlank c = true) (t : Text) :
    words (c :: t) = words t := by
  simp [words, pieces_cons_of_true h]

theorem pieces_append_of_true {p : Char → Bool} {c : Char} (h : p c = true) (x y : Text) :
    pieces p (x ++ c :: y) = pieces p x ++ pieces p y := by
  induction x with
  | nil => simp [pieces_cons_of_true h]
  | cons d x ih =>
    cases hd : p d with
    | true => simp [pieces_cons_of_true hd, ih]
    | false =>
      obtain ⟨q, rest, hq, heq⟩ := pieces_cons_of_false hd x
      obtain ⟨q', rest', hq', heq'⟩ := pieces_cons_of_false hd (x ++ c :: y)
      rw [ih, hq] at hq'
      simp only [List.cons_append, List.cons.injEq] at hq'
      rw [List.cons_append, heq', heq, ← hq'.1, ← hq'.2]
      rfl

theorem words_append_blank {c : Char} (h : isBlank c = true) (x y : Text) :
    words (x ++ c :: y) = words x ++ words y := by
  simp [words, pieces_append_of_true h]

theorem pieces_of_forall_false {p : Char → Bool} {t : Text} (h : ∀ c ∈ t, p c = false) :
    pieces p t = [t] := by
  induction t with
  | nil => rfl
  | cons c t ih =>
    obtain ⟨q, rest, hq, heq⟩ := pieces_cons_of_false (h c List.mem_cons_self) t
    rw [ih fun d hd => h d (List.mem_cons_of_mem _ hd)] at hq
    simp only [List.cons.injEq] at hq
    rw [heq, ← hq.1, ← hq.2]

theorem words_singleton {w : Text} (hne : w ≠ []) (h : ∀ c ∈ w, isBlank c = false) :
    words w = [w] := by
  simp [words, pieces_of_forall_false h, hne]

end LineShell.Text
