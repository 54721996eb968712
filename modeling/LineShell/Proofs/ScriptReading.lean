import LineShell.Proofs.Descriptors
import LineShell.Proofs.Positions
import LineShell.Proofs.TrailingBlanks
/-!
# Reading a script

The line that a reader takes does not depend on how its bytes are cut into refills: it is the part
of all bytes up to the first line feed, and the rest is left for the next read (`Reader.next_eq`).
A line that was written as text is read back but for the carriage returns at its end
(`ScriptLines.lineText_bytes`).

A script behind a descriptor is read as bytes at hand are, and reading moves the descriptor past the
bytes and changes nothing else (`Source.next_script`).
-/

namespace LineShell

namespace ScriptLines

/-! ### Cutting off a line -/

theorem cutLine_feed (bytes : Bytes) : cutLine (lineFeed :: bytes) = ([lineFeed], some bytes) := rfl

theorem cutLine_cons {b : UInt8} (h : b ≠ lineFeed) (bytes : Bytes) :
    cutLine (b :: bytes) = (b :: (cutLine bytes).1, (cutLine bytes).2) := by
  rw [cutLine, if_neg h]

/-- More bytes behind a line feed change nothing. -/
theorem cutLine_append_of_some {x line rest : Bytes} (h : cutLine x = (line, some rest))
    (y : Bytes) : cutLine (x ++ y) = (line, some (rest ++ y)) := by
  induction x generalizing line with
  | nil => cases h
  | cons b x ih =>
    by_cases hb : b = lineFeed
    · subst hb
      rw [cutLine_feed] at h
      cases h
      rfl
    · rw [cutLine_cons hb] at h
      obtain ⟨rfl, hrest⟩ := Prod.mk.inj h
      have hcut : cutLine x = ((cutLine x).1, some rest) := Prod.ext rfl hrest
      rw [List.cons_append, cutLine_cons hb, ih hcut]

/-- Bytes without a line feed begin the line that goes on in the bytes behind them. -/
theorem cutLine_append_of_none {x line : Bytes} (h : cutLine x = (line, none)) (y : Bytes) :
    line = x ∧ cutLine (x ++ y) = (x ++ (cutLine y).1, (cutLine y).2) := by
  induction x generalizing line with
  | nil =>
    cases h
    exact ⟨rfl, rfl⟩
  | cons b x ih =>
    by_cases hb : b = lineFeed
    · subst hb
      rw [cutLine_feed] at h
      cases h
    · rw [cutLine_cons hb] at h
      obtain ⟨rfl, hrest⟩ := Prod.mk.inj h
      have hcut : cutLine x = ((cutLine x).1, none) := Prod.ext rfl hrest
      obtain ⟨heq, happend⟩ := ih hcut
      rw [List.cons_append, cutLine_cons hb, happend, heq]
      exact ⟨rfl, rfl⟩

/-- A line that is cut off is not empty. -/
theorem cutLine_ne_nil {bytes : Bytes} (h : bytes ≠ []) : (cutLine bytes).1 ≠ [] := by
  cases bytes with
  | nil => exact absurd rfl h
  | cons b bytes =>
    by_cases hb : b = lineFeed
    · subst hb
      exact List.cons_ne_nil _ _
    · rw [cutLine_cons hb]
      exact List.cons_ne_nil _ _

/-- **Cutting off lines gives all lines of the bytes.** -/
theorem rawLines_eq_cons {bytes : Bytes} (h : bytes ≠ []) :
    rawLines bytes = (cutLine bytes).1 :: rawLines ((cutLine bytes).2.getD []) := by
  induction bytes with
  | nil => exact absurd rfl h
  | cons b bytes ih =>
    rw [rawLines_cons]
    by_cases hb : b = lineFeed
    · subst hb
      rw [if_pos rfl]
      rfl
    · rw [if_neg hb, cutLine_cons hb]
      cases bytes with
      | nil => rfl
      | cons c bytes => rw [ih (List.cons_ne_nil _ _)]

/-! ### Bytes at hand -/

theorem run_refill (capacity : Nat) (unread : Bytes) :
    (Reader.refill capacity).run unread =
      (.ok (unread.take (max capacity 1)), unread.drop (max capacity 1)) := rfl

/-- **A line is taken whole**, however it is cut into refills. -/
theorem takeLine_refill {capacity fuel : Nat} {unread : Bytes} (hfuel : unread.length < fuel)
    (taken buffered : Bytes) :
    ∃ left unread', (takeLine (Reader.refill capacity) fuel taken buffered).run unread =
        ((.ok (taken ++ (cutLine (buffered ++ unread)).1), left), unread') ∧
      left ++ unread' = (cutLine (buffered ++ unread)).2.getD [] := by
  induction fuel generalizing unread taken buffered with
  | zero => omega
  | succ fuel ih =>
    unfold takeLine
    rcases hcut : cutLine buffered with ⟨line, _ | rest⟩
    · obtain ⟨rfl, happend⟩ := cutLine_append_of_none hcut unread
      rw [happend]
      dsimp only
      rw [run_bind, run_refill]
      cases unread with
      | nil =>
        refine ⟨[], [], ?_, rfl⟩
        rw [List.take_nil, List.drop_nil]
        show _ = ((Except.ok (taken ++ (line ++ [])), []), [])
        rw [List.append_nil]
        rfl
      | cons b unread =>
        -- At least one byte is taken from what is unread, so that the fuel suffices.
        obtain ⟨n, hn⟩ : ∃ n, max capacity 1 = n + 1 := ⟨max capacity 1 - 1, by omega⟩
        have hlength : (unread.drop n).length < fuel := by
          rw [List.length_drop]
          rw [List.length_cons] at hfuel
          omega
        obtain ⟨left, unread', hrun, hleft⟩ := ih hlength (taken ++ line) (b :: unread.take n)
        rw [List.cons_append, List.take_append_drop] at hrun hleft
        rw [hn, List.take_succ_cons, List.drop_succ_cons, ← List.append_assoc]
        exact ⟨left, unread', hrun, hleft⟩
    · rw [cutLine_append_of_some hcut unread]
      exact ⟨rest, unread, rfl, rfl⟩

end ScriptLines

namespace Reader

/-- All that a reader has still to give. -/
def rest (r : Reader) : Bytes := r.buffered ++ r.unread

/-- **A read gives the bytes up to the first line feed**, and leaves what is behind it. -/
theorem next_eq (r : Reader) :
    ∃ r' : Reader, r.next = (ScriptLines.ofRaw (ScriptLines.cutLine r.rest).1, r') ∧
      r'.rest = (ScriptLines.cutLine r.rest).2.getD [] ∧ r'.capacity = r.capacity := by
  obtain ⟨left, unread', hrun, hleft⟩ := @ScriptLines.takeLine_refill r.capacity
    (r.unread.length + 2) r.unread (by omega) [] r.buffered
  refine ⟨{ r with buffered := left, unread := unread' }, ?_, hleft, rfl⟩
  unfold next
  rw [hrun]
  rfl

theorem eq_ofBytes_nil {r : Reader} (h : r.rest = []) : r = ofBytes r.capacity [] := by
  obtain ⟨capacity, buffered, unread⟩ := r
  obtain ⟨rfl, rfl⟩ := List.append_eq_nil_iff.1 h
  rfl

theorem next_ofBytes_nil (capacity : Nat) :
    (ofBytes capacity []).next = (.eof, ofBytes capacity []) := by
  obtain ⟨r, hnext, hleft, hcapacity⟩ := next_eq (ofBytes capacity [])
  rw [hnext, eq_ofBytes_nil hleft, hcapacity]
  rfl

end Reader

/-! ### Lines that were written as text -/

namespace ScriptLines

theorem lineFeed_not_mem_bytes {line : Text} (h : '\n' ∉ line) : lineFeed ∉ line.bytes := by
  intro hmem
  obtain ⟨c, hc, hfeed⟩ := List.mem_flatMap.1 hmem
  obtain rfl : '\n' = c := Text.eq_of_byte_mem (by decide) hfeed
  exact h hc

/-- How a line may end in a script. -/
def IsEnding (ending : Bytes) : Prop := ending = [] ∨ ending = [lineFeed]

theorem cutLine_bytes {line : Text} (h : '\n' ∉ line) {ending : Bytes} (hending : IsEnding ending) :
    ∃ rest, cutLine (line.bytes ++ ending) = (line.bytes ++ ending, rest) ∧ rest.getD [] = [] := by
  rcases hending with rfl | rfl
  · rw [List.append_nil, cutLine_of_noFeed (lineFeed_not_mem_bytes h)]
    exact ⟨none, rfl, rfl⟩
  · rw [cutLine_of_feed (lineFeed_not_mem_bytes h)]
    exact ⟨some [], rfl, rfl⟩

theorem isBlank_of_isLineEnd {c : Char} (h : (c == '\n' || c == '\r') = true) :
    Text.isBlank c = true := by
  rw [Bool.or_eq_true, beq_iff_eq, beq_iff_eq] at h
  rcases h with rfl | rfl <;> decide

theorem decode_lineFeed (x y : Bytes) :
    Bytes.text (x ++ lineFeed :: y) = x.text ++ '\n' :: y.text :=
  Text.Utf8.decode_ascii (by decide) x y

/-- How a line was ended does not show in its text. -/
theorem lineText_append {ending : Bytes} (hending : IsEnding ending) (x : Bytes) :
    lineText (x ++ ending) = Text.dropEndWhile (fun c => c == '\n' || c == '\r') x.text := by
  unfold lineText
  rcases hending with rfl | rfl
  · rw [List.append_nil]
  · rw [decode_lineFeed]
    exact Text.dropEndWhile_append (List.forall_mem_singleton.2 rfl) x.text

/-- **A line is read back as it was written**, but for line feeds and carriage returns at its end,
which are blanks. -/
theorem lineText_bytes (line : Text) {ending : Bytes} (hending : IsEnding ending) :
    ∃ b, Text.Blanks b ∧ line = lineText (line.bytes ++ ending) ++ b := by
  rw [lineText_append hending, Bytes.text, Text.Utf8.decode_encode]
  obtain ⟨b, hb, hline⟩ := Text.dropEndWhile_append_eq (fun c => c == '\n' || c == '\r') line
  exact ⟨b, fun c hc => isBlank_of_isLineEnd (hb c hc), hline⟩

end ScriptLines

/-- The one line of a text without line feeds is taken at once. -/
theorem Reader.next_line {line : Text} (h : '\n' ∉ line) {ending : Bytes}
    (hending : ScriptLines.IsEnding ending) (capacity : Nat) :
    (ofBytes capacity (line.bytes ++ ending)).next =
      (ScriptLines.ofRaw (line.bytes ++ ending), ofBytes capacity []) := by
  obtain ⟨rest, hcut, hrest⟩ := ScriptLines.cutLine_bytes h hending
  obtain ⟨r, hnext, hleft, hcapacity⟩ := next_eq (ofBytes capacity (line.bytes ++ ending))
  rw [show (ofBytes capacity (line.bytes ++ ending)).rest = line.bytes ++ ending from rfl, hcut]
    at hnext hleft
  rw [hnext, eq_ofBytes_nil (hleft.trans hrest), hcapacity]
  rfl

/-! ### Behind a descriptor -/

namespace Source

variable {w : World} {descriptor : Nat} {unread : Bytes}

theorem run_refill (hahead : w.Ahead descriptor unread) :
    (refill descriptor).run w = (.ok (unread.take bufferSize),
      w.past descriptor (unread.take bufferSize).length) := by
  unfold refill
  rw [run_bind, Proc.run_read hahead]
  rfl

theorem run_ahead (hahead : w.Ahead descriptor unread) :
    (ahead descriptor).run w = (unread.length, w) := by
  unfold ahead
  rw [run_bind, Proc.run_peek hahead]
  rfl

/-- **A descriptor is read as bytes at hand are**, and is moved past those that were taken. -/
theorem takeLine_refill (hahead : w.Ahead descriptor unread) (fuel : Nat)
    (taken buffered : Bytes) {raw left unread' : Bytes}
    (h : (ScriptLines.takeLine (Reader.refill bufferSize) fuel taken buffered).run unread =
      ((.ok raw, left), unread')) :
    ∃ n ≤ unread.length, unread' = unread.drop n ∧
      (ScriptLines.takeLine (refill descriptor) fuel taken buffered).run w =
        ((.ok raw, left), w.past descriptor n) := by
  induction fuel generalizing w unread taken buffered with
  | zero =>
    cases h
    refine ⟨0, Nat.zero_le _, rfl, ?_⟩
    rw [hahead.past_zero]
    rfl
  | succ fuel ih =>
    unfold ScriptLines.takeLine at h ⊢
    rcases hcut : ScriptLines.cutLine buffered with ⟨line, _ | rest⟩
    · rw [hcut] at h
      dsimp only at h ⊢
      rw [run_bind, ScriptLines.run_refill, show max bufferSize 1 = bufferSize from rfl] at h
      rw [run_bind, run_refill hahead]
      -- A descriptor is moved by what was read of it, which near the end is less than a buffer.
      have hdrop : unread.drop bufferSize = unread.drop (unread.take bufferSize).length := by
        rw [List.length_take]
        rcases Nat.le_total bufferSize unread.length with hle | hle
        · rw [Nat.min_eq_left hle]
        · rw [Nat.min_eq_right hle, List.drop_length, List.drop_eq_nil_of_le hle]
      have hle := List.length_take_le' bufferSize unread
      rw [hdrop] at h
      generalize unread.take bufferSize = part at h hle ⊢
      cases part with
      | nil =>
        cases h
        exact ⟨0, Nat.zero_le _, rfl, rfl⟩
      | cons b part =>
        obtain ⟨n, hn, hunread', hrun⟩ := ih (hahead.past _) (taken ++ line) (b :: part) h
        rw [List.length_drop] at hn
        rw [List.drop_drop] at hunread'
        rw [hahead.past_past] at hrun
        exact ⟨_, by omega, hunread', hrun⟩
    · rw [hcut] at h
      cases h
      refine ⟨0, Nat.zero_le _, rfl, ?_⟩
      rw [hahead.past_zero]
      rfl

/-- **A script gives the line that a reader over its bytes gives.** -/
theorem next_script (hahead : w.Ahead descriptor unread) {buffered : Bytes} {line : Line}
    {r : Reader} (h : Reader.next ⟨bufferSize, buffered, unread⟩ = (line, r)) :
    ∃ n ≤ unread.length, r.unread = unread.drop n ∧
      (next (script descriptor buffered)).run w =
        ((.ok line, script descriptor r.buffered), w.past descriptor n) := by
  unfold Reader.next at h
  dsimp only at h
  rcases htake : (ScriptLines.takeLine (Reader.refill bufferSize) (unread.length + 2) []
    buffered).run unread with ⟨⟨e | raw, left⟩, unread'⟩
  · exact e.elim
  rw [htake] at h
  cases h
  obtain ⟨n, hn, hunread', hrun⟩ := takeLine_refill hahead _ _ _ htake
  refine ⟨n, hn, hunread', ?_⟩
  unfold next
  rw [run_bind, run_ahead hahead, run_bind, hrun]
  rfl

/-- The one line of a script is taken at once. -/
theorem next_script_line {line : Text} (h : '\n' ∉ line) {ending : Bytes}
    (hending : ScriptLines.IsEnding ending) (hahead : w.Ahead descriptor (line.bytes ++ ending)) :
    (next (script descriptor [])).run w =
      ((.ok (ScriptLines.ofRaw (line.bytes ++ ending)), script descriptor []),
        w.past descriptor (line.bytes ++ ending).length) := by
  obtain ⟨n, hn, hunread, hrun⟩ := next_script hahead (Reader.next_line h hending bufferSize)
  have hlength : (line.bytes ++ ending).length ≤ n := List.drop_eq_nil_iff.1 hunread.symm
  rw [hrun, Nat.le_antisymm hn hlength]
  rfl

/-- Behind the last line of a script is its end. -/
theorem next_script_end (hahead : w.Ahead descriptor []) :
    (next (script descriptor [])).run w = ((.ok .eof, script descriptor []), w) := by
  obtain ⟨n, hn, -, hrun⟩ := next_script hahead (Reader.next_ofBytes_nil bufferSize)
  rw [hrun, Nat.le_zero.1 hn, hahead.past_zero]
  rfl

end Source

end LineShell
