import LineShell.Proofs.InvalidParts
import LineShell.Proofs.LineGrammar
import LineShell.Proofs.ScriptReading
import Mathlib.Data.List.Forall2
/-!
# The lines of all bytes

Which lines a script has, for bytes of every kind: they are cut at each line feed, and nothing
behind the last line feed is no line. `Splits` is the cutting, by itself, of bytes and of texts;
`ScriptLines.Shows` is what becomes of one piece.

Between line feeds the bytes may be invalid. No ASCII byte goes on with a character, so that a line
feed ends an invalid part before it and stands for itself (`Text.Utf8.found_ascii`). Bytes can
therefore be decoded before they are cut or piece by piece (`Splits.text`).

The headline is `Reader.reads_script`: a reader gives these lines and then the end for ever, however
much one refill brings.
-/

namespace LineShell

/-! ### Pieces -/

/-- A list is cut at every separator. There is always a last piece, maybe an empty one. -/
inductive Splits {α : Type} (separator : α) : List α → List (List α) → Prop
  | last {x : List α} (hx : separator ∉ x) : Splits separator x [x]
  | more {x y : List α} {pieces : List (List α)} (hx : separator ∉ x)
      (h : Splits separator y pieces) : Splits separator (x ++ separator :: y) (x :: pieces)

/-- What cuts at the first separator and goes on behind it cuts at every one. -/
theorem splits_iff_of {α : Type} {separator : α} {cut : List α → List (List α)}
    (hlast : ∀ x, separator ∉ x → cut x = [x])
    (hmore : ∀ x y, separator ∉ x → cut (x ++ separator :: y) = x :: cut y)
    {l : List α} {pieces : List (List α)} : Splits separator l pieces ↔ pieces = cut l := by
  constructor
  · intro h
    induction h with
    | last hx => rw [hlast _ hx]
    | more hx _ ih => rw [hmore _ _ hx, ih]
  · rintro rfl
    induction hlength : l.length using Nat.strong_induction_on generalizing l with
    | _ n ih =>
      by_cases hmem : separator ∈ l
      · obtain ⟨x, y, rfl, hx⟩ := List.eq_append_cons_of_mem hmem
        have hshorter : y.length < n := by
          rw [List.length_append, List.length_cons] at hlength
          omega
        rw [hmore x y hx]
        exact .more hx (ih _ hshorter rfl)
      · rw [hlast l hmem]
        exact .last hmem

namespace Bytes

theorem pieces_cons (separator b : UInt8) (bytes : Bytes) :
    pieces separator (b :: bytes) =
      if b = separator then [] :: pieces separator bytes
      else match pieces separator bytes with
        | [] => [[b]]
        | piece :: rest => (b :: piece) :: rest := rfl

variable {separator : UInt8} {x : Bytes}

theorem pieces_of_not_mem (h : separator ∉ x) : pieces separator x = [x] := by
  induction x with
  | nil => rfl
  | cons b x ih =>
    have hb : b ≠ separator := fun heq => h (heq ▸ List.mem_cons_self)
    rw [pieces_cons, if_neg hb, ih fun hmem => h (List.mem_cons_of_mem b hmem)]

theorem pieces_append (h : separator ∉ x) (y : Bytes) :
    pieces separator (x ++ separator :: y) = x :: pieces separator y := by
  induction x with
  | nil => rw [List.nil_append, pieces_cons, if_pos rfl]
  | cons b x ih =>
    have hb : b ≠ separator := fun heq => h (heq ▸ List.mem_cons_self)
    rw [List.cons_append, pieces_cons, if_neg hb, ih fun hmem => h (List.mem_cons_of_mem b hmem)]

theorem splits_iff {bytes : Bytes} {ps : List Bytes} :
    Splits separator bytes ps ↔ ps = pieces separator bytes :=
  splits_iff_of (fun _ => pieces_of_not_mem) fun _ y h => pieces_append h y

theorem exists_splits (separator : UInt8) (bytes : Bytes) : ∃ ps, Splits separator bytes ps :=
  ⟨_, splits_iff.2 rfl⟩

end Bytes

namespace Text

variable {c : Char}

theorem splits_iff {t : Text} {ps : List Text} : Splits c t ps ↔ ps = pieces (· == c) t := by
  have hfree : ∀ {x : Text}, c ∉ x → pieces (· == c) x = [x] := fun h =>
    pieces_of_forall_false fun d hd => beq_false_of_ne fun heq => h (heq ▸ hd)
  refine splits_iff_of (fun _ => hfree) fun x y h => ?_
  have hc : (c == c) = true := beq_self_eq_true c
  rw [pieces_append_of_true (p := (· == c)) hc, hfree h]
  rfl

theorem getLast?_dropEndWhile (p : Char → Bool) (t : Text) :
    ∀ c ∈ (dropEndWhile p t).getLast?, p c = false := by
  unfold dropEndWhile
  rw [List.getLast?_reverse]
  exact head?_dropWhile p t.reverse

end Text

/-! ### Decoding around line feeds -/

namespace Text.Utf8

/-- A line feed in the text was one in the bytes. -/
theorem lineFeed_mem_of_mem_decode {bytes : Bytes} (h : '\n' ∈ decode bytes) :
    lineFeed ∈ bytes := by
  have hlossy : Lossy bytes (decode bytes) := lossy_iff.2 rfl
  generalize decode bytes = t at h hlossy
  induction hlossy with
  | nil => cases h
  | char c _ ih =>
    rcases List.mem_cons.1 h with rfl | h
    · exact List.mem_append_left _ (by decide)
    · exact List.mem_append_right _ (ih h)
  | invalid _ _ ih =>
    rcases List.mem_cons.1 h with heq | h
    · exact absurd heq (by decide)
    · exact List.mem_append_right _ (ih h)

end Text.Utf8

open Text.Utf8 (Lossy lossy_iff lineFeed_mem_of_mem_decode decode_encode decode_eq_nil_iff)

/-- **Decoding goes before the cutting or behind it.** -/
theorem Splits.text {bytes : Bytes} {ps : List Bytes} (h : Splits lineFeed bytes ps) :
    Splits '\n' bytes.text (ps.map Bytes.text) := by
  have hfree : ∀ {x : Bytes}, lineFeed ∉ x → '\n' ∉ x.text :=
    fun hx hmem => hx (lineFeed_mem_of_mem_decode hmem)
  induction h with
  | last hx => exact .last (hfree hx)
  | more hx _ ih =>
    rw [ScriptLines.decode_lineFeed]
    exact .more (hfree hx) ih

/-! ### The lines of bytes and of texts -/

namespace ScriptLines

/-- The pieces without the last one if that is empty. -/
def withoutEmptyLast {α : Type} [DecidableEq α] (ps : List (List α)) : List (List α) :=
  if ps.getLast? = some [] then ps.dropLast else ps

/-- A text without the carriage returns at its end. -/
def withoutReturns (t : Text) : Text := Text.dropEndWhile (· == '\r') t

/-- The line that a piece is read as. -/
def lineOf (piece : Bytes) : Text := withoutReturns piece.text

/-- The lines of bytes. -/
def linesOf (bytes : Bytes) : List Text :=
  (withoutEmptyLast (Bytes.pieces lineFeed bytes)).map lineOf

/-- The lines of a text. -/
def linesOfText (t : Text) : List Text :=
  (withoutEmptyLast (Text.pieces (· == '\n') t)).map withoutReturns

/-- A piece is shown as a line: its text, but for carriage returns at the end. -/
def Shows (piece : Bytes) (line : Text) : Prop :=
  ∃ returns, Lossy piece (line ++ returns) ∧ (∀ c ∈ returns, c = '\r') ∧ line.getLast? ≠ some '\r'

variable {x : Bytes} {t : Text}

theorem withoutEmptyLast_cons {α : Type} [DecidableEq α] (piece : List α) {ps : List (List α)}
    (h : ps ≠ []) :
    withoutEmptyLast (piece :: ps) = piece :: withoutEmptyLast ps := by
  unfold withoutEmptyLast
  rw [List.getLast?_cons_of_ne_nil h, List.dropLast_cons_of_ne_nil h]
  split <;> rfl

theorem withoutReturns_eq_self (h : t.getLast? ≠ some '\r') : withoutReturns t = t := by
  unfold withoutReturns Text.dropEndWhile
  rw [Text.dropWhile_of_head? fun c hc => ?_, List.reverse_reverse]
  rw [List.head?_reverse] at hc
  exact beq_false_of_ne fun heq => h (heq ▸ hc)

theorem getLast?_withoutReturns (t : Text) : (withoutReturns t).getLast? ≠ some '\r' :=
  fun hlast => Bool.noConfusion (Text.getLast?_dropEndWhile (· == '\r') t '\r' hlast)

/-- **A piece is shown as one line**, and it is the one that is read. -/
theorem shows_iff {piece : Bytes} {line : Text} :
    Shows piece line ↔ line = lineOf piece := by
  constructor
  · rintro ⟨returns, hlossy, hreturns, hlast⟩
    have hdropped : withoutReturns (line ++ returns) = withoutReturns line :=
      Text.dropEndWhile_append (fun c hc => beq_iff_eq.2 (hreturns c hc)) line
    rw [lineOf, Bytes.text, ← lossy_iff.1 hlossy, hdropped, withoutReturns_eq_self hlast]
  · rintro rfl
    obtain ⟨returns, hreturns, htext⟩ := Text.dropEndWhile_append_eq (· == '\r') piece.text
    refine ⟨returns, lossy_iff.2 htext.symm, fun c hc => beq_iff_eq.1 (hreturns c hc), ?_⟩
    exact getLast?_withoutReturns piece.text

/-- The lines that bytes have, said without cutting them. -/
def HasLines (bytes : Bytes) (ls : List Text) : Prop :=
  ∃ ps, Splits lineFeed bytes ps ∧ List.Forall₂ Shows (withoutEmptyLast ps) ls

theorem hasLines_iff {bytes : Bytes} {ls : List Text} :
    HasLines bytes ls ↔ ls = linesOf bytes := by
  have hshows : Shows = fun piece line => lineOf piece = line :=
    funext fun _ => funext fun _ => propext (shows_iff.trans eq_comm)
  have hmap : ∀ ps, List.Forall₂ Shows ps ls ↔ ps.map lineOf = ls := fun ps => by
    rw [hshows, ← List.forall₂_map_left_iff, List.forall₂_eq_eq_eq]
  constructor
  · rintro ⟨ps, hps, hlines⟩
    rw [← (hmap _).1 hlines, Bytes.splits_iff.1 hps]
    rfl
  · rintro rfl
    exact ⟨_, Bytes.splits_iff.2 rfl, (hmap _).2 rfl⟩

theorem linesOf_nil : linesOf [] = [] := rfl

theorem linesOf_last (h : lineFeed ∉ x) (hne : x ≠ []) : linesOf x = [lineOf x] := by
  have hlast : ¬[x].getLast? = some [] := fun heq => hne (Option.some.inj heq)
  unfold linesOf withoutEmptyLast
  rw [Bytes.pieces_of_not_mem h, if_neg hlast]
  rfl

theorem linesOf_more (h : lineFeed ∉ x) (y : Bytes) :
    linesOf (x ++ lineFeed :: y) = lineOf x :: linesOf y := by
  have hne : Bytes.pieces lineFeed y ≠ [] := by
    intro hnil
    cases Bytes.splits_iff.2 hnil.symm
  unfold linesOf
  rw [Bytes.pieces_append h, withoutEmptyLast_cons x hne, List.map_cons]

/-- **Lines that are ended stay as they are**, whatever follows. -/
theorem linesOf_append (a b : Bytes) :
    linesOf (a ++ lineFeed :: b) = linesOf (a ++ [lineFeed]) ++ linesOf b := by
  obtain ⟨ps, hps⟩ := Bytes.exists_splits lineFeed a
  induction hps with
  | last hx => rw [linesOf_more hx, linesOf_more hx, linesOf_nil, List.singleton_append]
  | more hx _ ih =>
    rw [List.append_assoc, List.cons_append, linesOf_more hx, ih, List.append_assoc,
      List.cons_append, linesOf_more hx, List.cons_append]

/-- Bytes that leave no line open. -/
def IsEnded (bytes : Bytes) : Prop := ∀ b ∈ bytes.getLast?, b = lineFeed

theorem linesOf_of_isEnded {before : Bytes} (h : IsEnded before) (y : Bytes) :
    linesOf (before ++ y) = linesOf before ++ linesOf y := by
  rcases List.eq_nil_or_concat' before with rfl | ⟨a, b, rfl⟩
  · rfl
  · obtain rfl : b = lineFeed := h b List.getLast?_concat
    rw [List.append_assoc, List.singleton_append, linesOf_append]

/-- **The lines of bytes are those of their text.** -/
theorem linesOf_eq_linesOfText (bytes : Bytes) : linesOf bytes = linesOfText bytes.text := by
  obtain ⟨ps, hps⟩ := Bytes.exists_splits lineFeed bytes
  have hlast : (ps.map Bytes.text).getLast? = some [] ↔ ps.getLast? = some [] := by
    rw [List.getLast?_map, Option.map_eq_some_iff]
    constructor
    · rintro ⟨piece, hpiece, hnil⟩
      rwa [decode_eq_nil_iff.1 hnil] at hpiece
    · exact fun h => ⟨[], h, rfl⟩
  unfold linesOf linesOfText withoutEmptyLast
  rw [← Bytes.splits_iff.1 hps, ← Text.splits_iff.1 hps.text]
  by_cases hempty : ps.getLast? = some []
  · rw [if_pos hempty, if_pos (hlast.2 hempty), ← List.map_dropLast, List.map_map]
    rfl
  · rw [if_neg hempty, if_neg (mt hlast.1 hempty), List.map_map]
    rfl

/-- **Texts that are written as lines are the lines again.** -/
theorem linesOf_unlines {ls : List Text} (h : ∀ l ∈ ls, '\n' ∉ l ∧ l.getLast? ≠ some '\r') :
    linesOf (Text.unlines ls).bytes = ls := by
  induction ls with
  | nil => rfl
  | cons l ls ih =>
    obtain ⟨hfeed, hreturn⟩ := h l List.mem_cons_self
    have hbytes : (Text.unlines (l :: ls)).bytes =
        l.bytes ++ lineFeed :: (Text.unlines ls).bytes := by
      unfold Text.unlines Text.bytes Text.Utf8.encode
      rw [List.flatMap_cons, List.flatMap_append, List.flatMap_append, List.append_assoc]
      rfl
    rw [hbytes, linesOf_more (lineFeed_not_mem_bytes hfeed), lineOf, Bytes.text, decode_encode,
      withoutReturns_eq_self hreturn, ih fun l' hl' => h l' (List.mem_cons_of_mem l hl')]

/-- **A raw line is read as its piece**, whether it was ended or not. -/
theorem lineText_eq (h : lineFeed ∉ x) {ending : Bytes} (hending : IsEnding ending) :
    lineText (x ++ ending) = lineOf x := by
  let isEnd : Char → Bool := fun c => c == '\n' || c == '\r'
  obtain ⟨y, hy, htext⟩ := Text.dropEndWhile_append_eq isEnd x.text
  -- The piece holds no line feed, so that nothing but carriage returns was dropped.
  have hreturns : ∀ c ∈ y, (c == '\r') = true := by
    intro c hc
    have hmem : c ∈ x.text := htext ▸ List.mem_append_right _ hc
    have hne : (c == '\n') ≠ true := by
      rw [Ne, beq_iff_eq]
      rintro rfl
      exact h (lineFeed_mem_of_mem_decode hmem)
    exact (Bool.or_eq_true_iff.1 (hy c hc)).resolve_left hne
  have hlast : (Text.dropEndWhile isEnd x.text).getLast? ≠ some '\r' := fun hlast =>
    Bool.noConfusion (Text.getLast?_dropEndWhile isEnd x.text '\r' hlast)
  have hdropped : withoutReturns (Text.dropEndWhile isEnd x.text ++ y) =
      withoutReturns (Text.dropEndWhile isEnd x.text) := Text.dropEndWhile_append hreturns _
  rw [lineText_append hending, ← withoutReturns_eq_self hlast, ← hdropped, ← htext]
  rfl

end ScriptLines

/-! ### Reading to the end -/

namespace Reader

open ScriptLines

/-- What the first so many reads give. -/
def reads : Nat → Reader → List Line
  | 0, _ => []
  | n + 1, r => r.next.1 :: reads n r.next.2

theorem reads_of_next {r r' : Reader} {line : Line} (h : r.next = (line, r')) (n : Nat) :
    r.reads (n + 1) = line :: r'.reads n := by
  rw [reads, h]

/-- **Behind the end is the end.** -/
theorem reads_of_rest_nil {r : Reader} (h : r.rest = []) (n : Nat) :
    r.reads n = List.replicate n .eof := by
  rw [eq_ofBytes_nil h]
  induction n with
  | zero => rfl
  | succ n ih => rw [reads_of_next (next_ofBytes_nil r.capacity), ih, List.replicate_succ]

/-- One read, where a line feed is ahead. -/
theorem next_of_feed {r : Reader} {x y : Bytes} (hx : lineFeed ∉ x)
    (hrest : r.rest = x ++ lineFeed :: y) :
    ∃ r' : Reader, r.next = (.text (lineOf x), r') ∧ r'.rest = y := by
  obtain ⟨r', hnext, hleft, -⟩ := next_eq r
  rw [hrest, cutLine_of_feed hx] at hnext hleft
  refine ⟨r', ?_, hleft⟩
  have hsome : (x ++ [lineFeed]).isEmpty = false :=
    List.isEmpty_eq_false_iff.2 (List.append_ne_nil_of_right_ne_nil x (List.cons_ne_nil _ _))
  rw [hnext, ofRaw, hsome, if_neg Bool.false_ne_true, lineText_eq hx (.inr rfl)]

/-- One read of bytes that lack a line feed. -/
theorem next_of_noFeed {r : Reader} (hx : lineFeed ∉ r.rest) (hne : r.rest ≠ []) :
    ∃ r' : Reader, r.next = (.text (lineOf r.rest), r') ∧ r'.rest = [] := by
  obtain ⟨r', hnext, hleft, -⟩ := next_eq r
  rw [cutLine_of_noFeed hx] at hnext hleft
  refine ⟨r', ?_, hleft⟩
  have hline := lineText_eq hx (.inl rfl)
  rw [List.append_nil] at hline
  rw [hnext, ofRaw, List.isEmpty_eq_false_iff.2 hne, if_neg Bool.false_ne_true, hline]

/-- **A reader gives the lines of all that is ahead of it**, and then the end. -/
theorem reads_rest (r : Reader) (n : Nat) :
    r.reads ((linesOf r.rest).length + n) =
      (linesOf r.rest).map .text ++ List.replicate n .eof := by
  obtain ⟨ps, hps⟩ := Bytes.exists_splits lineFeed r.rest
  generalize hrest : r.rest = bytes at hps ⊢
  induction hps generalizing r with
  | @last x hx =>
    rcases eq_or_ne x [] with rfl | hne
    · rw [linesOf_nil, List.length_nil, Nat.zero_add, reads_of_rest_nil hrest]
      rfl
    · subst hrest
      obtain ⟨r', hnext, hrest'⟩ := next_of_noFeed hx hne
      rw [linesOf_last hx hne, List.length_singleton, Nat.add_comm, reads_of_next hnext,
        reads_of_rest_nil hrest']
      rfl
  | more hx _ ih =>
    obtain ⟨r', hnext, hrest'⟩ := next_of_feed hx hrest
    rw [linesOf_more hx, List.length_cons, Nat.add_right_comm, reads_of_next hnext, ih r' hrest']
    rfl

/-- **What reading a script gives.** However much one refill brings, it gives the lines of the bytes
and then the end for ever. These are the pieces between line feeds, an empty last one left out, each
shown with one replacement for every maximal invalid part and without carriage returns at its end;
and they are the lines of the text that everything decodes to at once. What one line holds shows in
no other. Texts that are written as lines are read back. -/
theorem reads_script (capacity : Nat) (bytes : Bytes) :
    (∀ n, (ofBytes capacity bytes).reads ((linesOf bytes).length + n) =
      (linesOf bytes).map .text ++ List.replicate n .eof) ∧
    (∀ ls, HasLines bytes ls ↔ ls = linesOf bytes) ∧
    linesOf bytes = linesOfText bytes.text ∧
    (∀ a b, linesOf (a ++ lineFeed :: b) = linesOf (a ++ [lineFeed]) ++ linesOf b) ∧
    (∀ before x behind, IsEnded before → lineFeed ∉ x →
      linesOf (before ++ x ++ lineFeed :: behind) =
        linesOf before ++ lineOf x :: linesOf behind ∧
      (x ≠ [] → linesOf (before ++ x) = linesOf before ++ [lineOf x])) ∧
    (∀ ls : List Text, (∀ l ∈ ls, '\n' ∉ l ∧ l.getLast? ≠ some '\r') →
      ∀ n, (ofBytes capacity (Text.unlines ls).bytes).reads (ls.length + n) =
        ls.map .text ++ List.replicate n .eof) := by
  refine ⟨reads_rest (ofBytes capacity bytes), fun ls => hasLines_iff, linesOf_eq_linesOfText bytes,
    linesOf_append, fun before x behind hbefore hx => ⟨?_, fun hne => ?_⟩, fun ls hls n => ?_⟩
  · rw [List.append_assoc, linesOf_of_isEnded hbefore, linesOf_more hx]
  · rw [linesOf_of_isEnded hbefore, linesOf_last hx hne]
  · have hreads := reads_rest (ofBytes capacity (Text.unlines ls).bytes) n
    rwa [show (ofBytes capacity (Text.unlines ls).bytes).rest = (Text.unlines ls).bytes from rfl,
      linesOf_unlines hls] at hreads

/-- A character that breaks off at the line feed spoils nothing behind it. -/
example : linesOf [0xE2, 0x82, lineFeed, 0x61, 0x0D, 0x0D, lineFeed, lineFeed, 0x62] =
    [[Text.Utf8.replacement], ['a'], [], ['b']] := by
  decide +kernel

end Reader

end LineShell
