import LineShell.Line.ArgVector
import LineShell.Machine.Environment
import LineShell.Proofs.Decoding
import LineShell.Proofs.TrailingBlanks
/-!
# Segments and their words

What a text is made of as far as its words go, `Text.Runs`: runs without blanks, with blanks before,
behind and between any two of them. A text has its words, and no other list, as such runs
(`Text.runs_iff`).

A segment is tokenized word by word: `ArgVector.ofSegment_eq` says that as many words as the cap
allows get a slot, each the one that `ArgVector.slot` gives it, and the others are counted.
-/

namespace LineShell

/-! ### Runs -/

namespace Text

/-- A run of characters that are not blank. -/
def IsWord (w : Text) : Prop := w ≠ [] ∧ ∀ c ∈ w, isBlank c = false

/-- The maximal runs without blanks that a text holds, in order: a blank ends each one that is not
at the end of the text. -/
inductive Runs : Text → List Text → Prop where
  | blank {b : Text} : Blanks b → Runs b []
  | last {b w : Text} : Blanks b → IsWord w → Runs (b ++ w) [w]
  | more {b w t : Text} {c : Char} {ws : List Text} :
    Blanks b → IsWord w → isBlank c = true → Runs t ws → Runs (b ++ (w ++ c :: t)) (w :: ws)

theorem words_of_blanks {b : Text} (h : Blanks b) (t : Text) : words (b ++ t) = words t := by
  induction b with
  | nil => rfl
  | cons c b ih =>
    rw [List.cons_append, words_cons_blank (h c List.mem_cons_self)]
    exact ih fun d hd => h d (List.mem_cons_of_mem c hd)

theorem eq_words_of_runs {t : Text} {ws : List Text} (h : Runs t ws) : ws = words t := by
  induction h with
  | @blank b hb =>
    have hwords := words_append [] hb
    rw [List.nil_append] at hwords
    rw [hwords]
    rfl
  | last hb hw => rw [words_of_blanks hb, words_singleton hw.1 hw.2]
  | more hb hw hc _ ih =>
    rw [words_of_blanks hb, words_append_blank hc, words_singleton hw.1 hw.2, ← ih]
    rfl

/-- A text that does not start with a blank is a run, and something behind a blank. -/
theorem exists_run {t : Text} (hhead : ∀ c ∈ t.head?, isBlank c = false) (hne : t ≠ []) :
    ∃ w, IsWord w ∧ (t = w ∨ ∃ c rest, isBlank c = true ∧ t = w ++ c :: rest) := by
  induction t with
  | nil => exact absurd rfl hne
  | cons c t ih =>
    have hc : isBlank c = false := hhead c rfl
    cases t with
    | nil => exact ⟨[c], ⟨hne, by simpa using hc⟩, .inl rfl⟩
    | cons d t =>
      cases hd : isBlank d with
      | true => exact ⟨[c], ⟨List.cons_ne_nil _ _, by simpa using hc⟩, .inr ⟨d, t, hd, rfl⟩⟩
      | false =>
        obtain ⟨w, hw, hsplit⟩ := ih (fun e he => by cases he; exact hd) (List.cons_ne_nil d t)
        have hword : IsWord (c :: w) :=
          ⟨List.cons_ne_nil c w, fun e he => by
            rcases List.mem_cons.1 he with rfl | he
            · exact hc
            · exact hw.2 e he⟩
        rcases hsplit with heq | ⟨e, rest, he, heq⟩
        · exact ⟨c :: w, hword, .inl (by rw [heq])⟩
        · exact ⟨c :: w, hword, .inr ⟨e, rest, he, by rw [heq]; rfl⟩⟩

/-- **Every text is made of runs.** -/
theorem exists_runs (t : Text) : ∃ ws, Runs t ws := by
  have hsplit := List.takeWhile_append_dropWhile (p := isBlank) (l := t)
  have hblanks : Blanks (t.takeWhile isBlank) := List.all_eq_true.1 List.all_takeWhile
  by_cases hne : t.dropWhile isBlank = []
  · rw [hne, List.append_nil] at hsplit
    exact ⟨[], .blank (hsplit ▸ hblanks)⟩
  · obtain ⟨w, hw, heq | ⟨c, rest, hc, heq⟩⟩ := exists_run (head?_dropWhile isBlank t) hne
    · rw [heq] at hsplit
      exact ⟨[w], hsplit ▸ .last hblanks hw⟩
    · have hlength : rest.length < t.length := by
        rw [← hsplit, heq, List.length_append, List.length_append, List.length_cons]
        omega
      obtain ⟨ws, hws⟩ := exists_runs rest
      rw [heq] at hsplit
      exact ⟨w :: ws, hsplit ▸ .more hblanks hw hc hws⟩
termination_by t.length

/-- **The words of a text are its maximal runs**, and nothing else is. -/
theorem runs_iff {t : Text} {ws : List Text} : Runs t ws ↔ ws = words t := by
  constructor
  · exact eq_words_of_runs
  · rintro rfl
    obtain ⟨ws, hws⟩ := exists_runs t
    rwa [← eq_words_of_runs hws]

end Text

/-! ### Slots -/

namespace ArgVector

/-- The slot of a word under a given meaning of the variables. -/
def slot (vars : Text → Option Text) : Text → Option Text
  | '$' :: name => vars name
  | word => some word

theorem slot_of_plain (vars : Text → Option Text) {w : Text} (h : ∀ name, w ≠ '$' :: name) :
    slot vars w = some w := by
  unfold slot
  split
  · exact absurd rfl (h _)
  · rfl

theorem mapM_slotM (vars : Text → Option Text) (ws : List Text) :
    Id.run (ws.mapM (slotM fun name => pure (vars name))) = ws.map (slot vars) := by
  have hslot : ∀ w, slotM (m := Id) (fun name => pure (vars name)) w = pure (slot vars w) := by
    intro w
    unfold slotM
    split
    · rfl
    · rename_i hplain
      rw [slot_of_plain vars hplain]
  induction ws with
  | nil => rfl
  | cons w ws ih =>
    rw [List.mapM_cons, hslot]
    show slot vars w :: Id.run (ws.mapM (slotM fun name => pure (vars name))) = _
    rw [ih]
    rfl

/-- **Each word that the cap allows gets its slot**, and the others are counted. -/
theorem ofSegment_eq (vars : Text → Option Text) (cap : Nat) (segment : Text) :
    ofSegment vars cap segment =
      ⟨⟨((segmentWords segment).take cap).map (slot vars)⟩,
        ((segmentWords segment).drop cap).length⟩ := by
  show Tokenized.mk ⟨Id.run (((segmentWords segment).take cap).mapM
    (slotM fun name => pure (vars name)))⟩ _ = _
  rw [mapM_slotM]

end ArgVector

end LineShell
