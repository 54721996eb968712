import LineShell.Proofs.Positions
import Mathlib.Data.List.Induction
import Mathlib.Data.Nat.Find
/-!
# Characters and invalid parts

What bytes say as text, without a machine that reads them: characters, each written as its bytes,
and between them *invalid parts*. Such a part stands where no character is written. It is the
longest part there with which a character could begin, and a single byte if none could.

`Lossy` relates bytes to this text, with one U+FFFD for each invalid part. The headline is
`lossy_iff`: every byte string has exactly one such text, and decoding gives it. Inside a character
the machine knows the ranges of all the bytes that may still come; `Completes` says that it is right
about them, which carries the proof.
-/

namespace LineShell.Text.Utf8

/-! ### The relation -/

/-- Bytes that a character begins with. -/
def IsStart (part : Bytes) : Prop := ∃ c, part <+: encodeChar c

/-- A part is a maximal invalid one, before the rest. -/
structure IsInvalid (part rest : Bytes) : Prop where
  ne_nil : part ≠ []
  noChar : ∀ c, ¬encodeChar c <+: part ++ rest
  start : IsStart part ∨ part.length = 1
  maximal : ∀ longer, longer <+: part ++ rest → part.length < longer.length → ¬IsStart longer

/-- The text of bytes, with a replacement for each maximal invalid part. -/
inductive Lossy : Bytes → Text → Prop
  | nil : Lossy [] []
  | char (c : Char) {rest : Bytes} {t : Text} (h : Lossy rest t) :
      Lossy (encodeChar c ++ rest) (c :: t)
  | invalid {part rest : Bytes} {t : Text} (hpart : IsInvalid part rest) (h : Lossy rest t) :
      Lossy (part ++ rest) (replacement :: t)

/-! ### Every byte string has such a text -/

/-- Where no character is written there is a maximal invalid part. -/
theorem exists_isInvalid {bytes : Bytes} (hne : bytes ≠ [])
    (hnoChar : ∀ c, ¬encodeChar c <+: bytes) :
    ∃ part rest, bytes = part ++ rest ∧ IsInvalid part rest := by
  classical
  have hlength : 1 ≤ bytes.length := List.length_pos_iff.2 hne
  -- Of the parts that qualify the longest one is taken.
  let Qualifies : Nat → Prop := fun n => IsStart (bytes.take n) ∨ n = 1
  have hqualifies : Qualifies (Nat.findGreatest Qualifies bytes.length) :=
    Nat.findGreatest_spec hlength (.inr rfl)
  have hpos : 1 ≤ Nat.findGreatest Qualifies bytes.length :=
    Nat.le_findGreatest hlength (.inr rfl)
  have hle := Nat.findGreatest_le (P := Qualifies) bytes.length
  have hgreatest : ∀ n, Nat.findGreatest Qualifies bytes.length < n → n ≤ bytes.length →
      ¬Qualifies n := fun n => Nat.findGreatest_is_greatest
  generalize Nat.findGreatest Qualifies bytes.length = n at hqualifies hpos hle hgreatest
  have htake : (bytes.take n).length = n := List.length_take_of_le hle
  refine ⟨bytes.take n, bytes.drop n, (List.take_append_drop n bytes).symm, ?_, ?_, ?_, ?_⟩
  · exact List.ne_nil_of_length_pos (by omega)
  · rwa [List.take_append_drop]
  · rwa [htake]
  · intro longer hprefix hlonger hstart
    rw [List.take_append_drop] at hprefix
    rw [htake] at hlonger
    refine hgreatest longer.length hlonger hprefix.length_le (.inl ?_)
    rwa [← List.prefix_iff_eq_take.1 hprefix]

/-- **All bytes can be read.** -/
theorem exists_lossy (bytes : Bytes) : ∃ t, Lossy bytes t := by
  by_cases hne : bytes = []
  · subst hne
    exact ⟨[], .nil⟩
  by_cases hchar : ∃ c, encodeChar c <+: bytes
  · obtain ⟨c, rest, rfl⟩ := hchar
    have hshorter : rest.length < (encodeChar c ++ rest).length := by
      have hpos := List.length_pos_iff.2 (encodeChar_ne_nil c)
      rw [List.length_append]
      omega
    obtain ⟨t, ht⟩ := exists_lossy rest
    exact ⟨c :: t, .char c ht⟩
  · obtain ⟨part, rest, rfl, hpart⟩ := exists_isInvalid hne (not_exists.1 hchar)
    have hshorter : rest.length < (part ++ rest).length := by
      have hpos := List.length_pos_iff.2 hpart.ne_nil
      rw [List.length_append]
      omega
    obtain ⟨t, ht⟩ := exists_lossy rest
    exact ⟨replacement :: t, .invalid hpart ht⟩
termination_by bytes.length

/-! ### What the machine knows inside a character -/

/-- The bytes that may still come, so many of them and the first one in a range. -/
inductive Rest : Nat → Nat → Nat → Bytes → Prop
  | nil (low high : Nat) : Rest 0 low high []
  | cons {more low high : Nat} {b : UInt8} {rest : Bytes} (hlow : low ≤ b.toNat)
      (hhigh : b.toNat ≤ high) (h : Rest more 0x80 0xBF rest) : Rest (more + 1) low high (b :: rest)

/-- There are bytes to come, and whatever they are they complete the part to a character. -/
structure Completes (part : Bytes) (more low high : Nat) : Prop where
  pos : 0 < more
  char : ∀ rest, Rest more low high rest → ∃ c, encodeChar c = part ++ rest

theorem rest_replicate (more : Nat) : Rest more 0x80 0xBF (List.replicate more 0x80) := by
  induction more with
  | zero => exact .nil _ _
  | succ more ih => exact .cons (by decide) (by decide) ih

variable {part : Bytes} {value more low high : Nat} {b : UInt8}

/-- A byte in range goes on with the character. -/
theorem Completes.isStart (h : Completes part more low high) (hlow : low ≤ b.toNat)
    (hhigh : b.toNat ≤ high) : IsStart (part ++ [b]) := by
  obtain ⟨n, rfl⟩ : ∃ n, more = n + 1 := ⟨more - 1, by have := h.pos; omega⟩
  obtain ⟨c, hc⟩ := h.char _ (.cons hlow hhigh (rest_replicate n))
  refine ⟨c, List.replicate n 0x80, ?_⟩
  rw [hc, List.append_assoc]
  rfl

theorem Completes.append (h : Completes part (more + 1) low high) (hmore : 0 < more)
    (hlow : low ≤ b.toNat) (hhigh : b.toNat ≤ high) : Completes (part ++ [b]) more 0x80 0xBF := by
  refine ⟨hmore, fun rest hrest => ?_⟩
  obtain ⟨c, hc⟩ := h.char _ (.cons hlow hhigh hrest)
  refine ⟨c, ?_⟩
  rw [hc, List.append_assoc]
  rfl

/-! Whatever comes behind a first byte in its ranges is a character of its value. -/

theorem toNat_ofNat {n : Nat} (h : n.isValidChar) : (Char.ofNat n).toNat = n := by
  unfold Char.ofNat
  rw [dif_pos h]
  rfl

theorem toUInt8_eq {n : Nat} (h : n = b.toNat) : n.toUInt8 = b := by
  subst h
  exact UInt8.ofNat_toNat

theorem completes_two {b : UInt8} (hlow : 0xC2 ≤ b.toNat) (hhigh : b.toNat < 0xE0) :
    Completes [b] 1 0x80 0xBF := by
  refine ⟨Nat.zero_lt_one, fun rest hrest => ?_⟩
  cases hrest with
  | @cons _ _ _ b₁ _ hlow₁ hhigh₁ hrest =>
    cases hrest
    let n := (b.toNat - 0xC0) * 0x40 + (b₁.toNat - 0x80)
    have hn : (Char.ofNat n).toNat = n := toNat_ofNat (by unfold Nat.isValidChar; omega)
    refine ⟨Char.ofNat n, ?_⟩
    unfold encodeChar
    rw [hn]
    dsimp only
    rw [if_neg (by omega), if_pos (by omega), toUInt8_eq (b := b) (by omega),
      toUInt8_eq (b := b₁) (by omega)]
    rfl

theorem completes_three {b : UInt8} (hlow : 0xE0 ≤ b.toNat) (hhigh : b.toNat < 0xF0) :
    Completes [b] 2 (if b.toNat = 0xE0 then 0xA0 else 0x80)
      (if b.toNat = 0xED then 0x9F else 0xBF) := by
  refine ⟨Nat.zero_lt_two, fun rest hrest => ?_⟩
  cases hrest with
  | @cons _ _ _ b₁ _ hlow₁ hhigh₁ hrest =>
    cases hrest with
    | @cons _ _ _ b₂ _ hlow₂ hhigh₂ hrest =>
      cases hrest
      have hrange : 0x80 ≤ b₁.toNat ∧ b₁.toNat ≤ 0xBF ∧ (b.toNat = 0xE0 → 0xA0 ≤ b₁.toNat) ∧
          (b.toNat = 0xED → b₁.toNat ≤ 0x9F) := by
        split at hlow₁ <;> split at hhigh₁ <;> omega
      let n := ((b.toNat - 0xE0) * 0x40 + (b₁.toNat - 0x80)) * 0x40 + (b₂.toNat - 0x80)
      have hn : (Char.ofNat n).toNat = n := toNat_ofNat (by unfold Nat.isValidChar; omega)
      refine ⟨Char.ofNat n, ?_⟩
      unfold encodeChar
      rw [hn]
      dsimp only
      rw [if_neg (by omega), if_neg (by omega), if_pos (by omega), toUInt8_eq (b := b) (by omega),
        toUInt8_eq (b := b₁) (by omega), toUInt8_eq (b := b₂) (by omega)]
      rfl

theorem completes_four {b : UInt8} (hlow : 0xF0 ≤ b.toNat) (hhigh : b.toNat < 0xF5) :
    Completes [b] 3 (if b.toNat = 0xF0 then 0x90 else 0x80)
      (if b.toNat = 0xF4 then 0x8F else 0xBF) := by
  refine ⟨Nat.zero_lt_succ 2, fun rest hrest => ?_⟩
  cases hrest with
  | @cons _ _ _ b₁ _ hlow₁ hhigh₁ hrest =>
    cases hrest with
    | @cons _ _ _ b₂ _ hlow₂ hhigh₂ hrest =>
      cases hrest with
      | @cons _ _ _ b₃ _ hlow₃ hhigh₃ hrest =>
        cases hrest
        -- The bounds of the second byte keep the value from 0x10000 to 0x10FFFF.
        have hrange : 0x80 ≤ b₁.toNat ∧ b₁.toNat ≤ 0xBF ∧ (b.toNat = 0xF0 → 0x90 ≤ b₁.toNat) ∧
            (b.toNat = 0xF4 → b₁.toNat ≤ 0x8F) := by
          split at hlow₁ <;> split at hhigh₁ <;> omega
        let n := (((b.toNat - 0xF0) * 0x40 + (b₁.toNat - 0x80)) * 0x40 + (b₂.toNat - 0x80)) * 0x40 +
          (b₃.toNat - 0x80)
        have hn : (Char.ofNat n).toNat = n := toNat_ofNat (by unfold Nat.isValidChar; omega)
        refine ⟨Char.ofNat n, ?_⟩
        unfold encodeChar
        rw [hn]
        dsimp only
        rw [if_neg (by omega), if_neg (by omega), if_neg (by omega), toUInt8_eq (b := b) (by omega),
          toUInt8_eq (b := b₁) (by omega), toUInt8_eq (b := b₂) (by omega),
          toUInt8_eq (b := b₃) (by omega)]
        rfl

/-- What a byte between characters does: it is one, or begins one, or is invalid. -/
theorem start_cases (b : UInt8) :
    (∃ c, encodeChar c = [b]) ∨
    (∃ value more low high, Pending.start b = ([], .inside value more low high) ∧
      Completes [b] more low high) ∨
    Pending.start b = ([.invalid], .idle) := by
  rcases Nat.lt_or_ge b.toNat 0x80 with h | h
  · left
    have hn : (Char.ofNat b.toNat).toNat = b.toNat :=
      toNat_ofNat (by unfold Nat.isValidChar; omega)
    refine ⟨Char.ofNat b.toNat, ?_⟩
    rw [encodeChar_of_lt (by omega), hn, toUInt8_eq rfl]
  rcases Nat.lt_or_ge b.toNat 0xC2 with h' | h'
  · exact .inr (.inr (start_invalid h (.inl h')))
  rcases Nat.lt_or_ge b.toNat 0xE0 with h₂ | h₂
  · exact .inr (.inl ⟨_, _, _, _, start_two h' h₂, completes_two h' h₂⟩)
  rcases Nat.lt_or_ge b.toNat 0xF0 with h₃ | h₃
  · exact .inr (.inl ⟨_, _, _, _, start_three h₂ h₃, completes_three h₂ h₃⟩)
  rcases Nat.lt_or_ge b.toNat 0xF5 with h₄ | h₄
  · exact .inr (.inl ⟨_, _, _, _, start_four h₃ h₄, completes_four h₃ h₄⟩)
  · exact .inr (.inr (start_invalid h (.inr h₄)))

/-! ### What the machine finds -/

theorem found_start {s : Pending} (h : Pending.start b = ([], s)) (rest : Bytes) :
    found .idle (b :: rest) = found s rest := by
  rw [found, Pending.step, h]
  rfl

/-- The machine has read a part and is inside a character, about which it is right. -/
def Reads (part : Bytes) (value more low high : Nat) : Prop :=
  Completes part more low high ∧
    ∀ rest, found .idle (part ++ rest) = found (.inside value more low high) rest

/-- A byte in range that is not the last one is read as well. -/
theorem Reads.append (h : Reads part value (more + 1) low high) (hmore : 0 < more)
    (hlow : low ≤ b.toNat) (hhigh : b.toNat ≤ high) :
    Reads (part ++ [b]) (value * 0x40 + (b.toNat - 0x80)) more 0x80 0xBF := by
  refine ⟨h.1.append hmore hlow hhigh, fun rest => ?_⟩
  rw [List.append_assoc, List.singleton_append, h.2, found_more hlow hhigh (by omega)]
  rfl

/-- **The beginning of a character is read** without finding anything. -/
theorem exists_reads {c : Char} {behind : Bytes} (hne : part ≠ []) (hbehind : behind ≠ [])
    (hchar : part ++ behind = encodeChar c) :
    ∃ value more low high, Reads part value more low high := by
  have hnothing : found .idle behind ≠ [] := by
    obtain ⟨b, rest, rfl⟩ := List.exists_cons_of_ne_nil hbehind
    exact found_idle_ne_nil b rest
  have hfound : found .idle (part ++ behind) = [.char c] := by
    have h := found_encodeChar c []
    rw [List.append_nil] at h
    rw [hchar, h]
    rfl
  -- The part grows at its end, as it is read.
  induction part using List.reverseRecOn generalizing behind with
  | nil => exact absurd rfl hne
  | append_singleton part b ih =>
    rw [List.append_assoc, List.singleton_append] at hchar hfound
    by_cases hpart : part = []
    · subst hpart
      rw [List.nil_append] at hfound ⊢
      rcases start_cases b with ⟨c', hc'⟩ | ⟨value, more, low, high, hstart, hcompletes⟩ | hinvalid
      · rw [← List.singleton_append, ← hc', found_encodeChar] at hfound
        exact absurd (List.cons.inj hfound).2 hnothing
      · exact ⟨value, more, low, high, hcompletes, found_start hstart⟩
      · rw [found, Pending.step, hinvalid] at hfound
        cases (List.cons.inj hfound).1
    · obtain ⟨value, more, low, high, hreads⟩ := ih hpart (List.cons_ne_nil b behind) hchar
        (found_idle_ne_nil b behind) hfound
      rw [hreads.2] at hfound
      by_cases hrange : low ≤ b.toNat ∧ b.toNat ≤ high
      · obtain ⟨n, rfl⟩ : ∃ n, more = n + 1 := ⟨more - 1, by have := hreads.1.pos; omega⟩
        rcases Nat.eq_zero_or_pos n with rfl | hn
        · rw [found_last hrange.1 hrange.2] at hfound
          exact absurd (List.cons.inj hfound).2 hnothing
        · exact ⟨_, _, _, _, hreads.append hn hrange.1 hrange.2⟩
      · rw [found_out hrange] at hfound
        cases (List.cons.inj hfound).1

/-- **A maximal invalid part is found as one.** -/
theorem found_isInvalid {rest : Bytes} (h : IsInvalid part rest) :
    found .idle (part ++ rest) = .invalid :: found .idle rest := by
  -- Either the part is the beginning of a character, or it is one byte that begins none.
  have hreads : (∃ value more low high, Reads part value more low high) ∨
      ∃ b, part = [b] ∧ Pending.start b = ([.invalid], .idle) := by
    rcases h.start with ⟨c, behind, hchar⟩ | hlength
    · refine .inl (exists_reads h.ne_nil ?_ hchar)
      rintro rfl
      rw [List.append_nil] at hchar
      exact h.noChar c ⟨rest, by rw [← hchar]⟩
    · obtain ⟨b, rfl⟩ := List.length_eq_one_iff.1 hlength
      rcases start_cases b with ⟨c, hc⟩ | ⟨value, more, low, high, hstart, hcompletes⟩ | hinvalid
      · exact absurd ⟨rest, by rw [hc]⟩ (h.noChar c)
      · exact .inl ⟨value, more, low, high, hcompletes, found_start hstart⟩
      · exact .inr ⟨b, rfl, hinvalid⟩
  rcases hreads with ⟨value, more, low, high, hcompletes, hreads⟩ | ⟨b, rfl, hinvalid⟩
  · rw [hreads]
    cases rest with
    | nil => rfl
    | cons b rest =>
      refine found_out (fun hrange => ?_) rest
      -- A byte that continues the character would make a longer part.
      have hprefix : part ++ [b] <+: part ++ b :: rest :=
        ⟨rest, by rw [List.append_assoc, List.singleton_append]⟩
      refine h.maximal (part ++ [b]) hprefix ?_ (hcompletes.isStart hrange.1 hrange.2)
      rw [List.length_append, List.length_singleton]
      omega
  · rw [List.singleton_append, found, Pending.step, hinvalid]
    rfl

theorem eq_decode_of_lossy {bytes : Bytes} {t : Text} (h : Lossy bytes t) : t = decode bytes := by
  unfold decode
  rw [scan_eq_found]
  induction h with
  | nil => rfl
  | char c h ih => rw [found_encodeChar, List.map_cons, ← ih]; rfl
  | invalid hpart h ih => rw [found_isInvalid hpart, List.map_cons, ← ih]; rfl

/-- **Decoding shows each maximal invalid part as one replacement**, and characters as they are. -/
theorem lossy_iff {bytes : Bytes} {t : Text} : Lossy bytes t ↔ t = decode bytes := by
  constructor
  · exact eq_decode_of_lossy
  · rintro rfl
    obtain ⟨t, ht⟩ := exists_lossy bytes
    rwa [← eq_decode_of_lossy ht]

/-- **Bytes are text exactly if they are the bytes of one.** -/
theorem decode?_eq_some_iff {bytes : Bytes} {t : Text} :
    decode? bytes = some t ↔ bytes = encode t := by
  unfold decode?
  rw [scan_eq_found]
  constructor
  · intro h
    dsimp only at h
    split at h
    · cases h
    · rename_i hvalid
      cases h
      obtain ⟨t, ht⟩ := exists_lossy bytes
      -- By induction on the bytes as characters and invalid parts, of which there are none.
      induction ht with
      | nil => rfl
      | char c h ih =>
        rw [found_encodeChar] at hvalid ⊢
        have hrest := ih fun hmem => hvalid (by simpa using hmem)
        conv => lhs; rw [hrest]
        rfl
      | invalid hpart h ih =>
        rw [found_isInvalid hpart] at hvalid
        exact absurd (by simp) hvalid
  · rintro rfl
    have hfound := found_encode t []
    rw [List.append_nil] at hfound
    rw [hfound]
    have hnone : (t.map Found.char ++ found .idle []).contains .invalid = false := by
      rw [List.contains_eq_mem, decide_eq_false_iff_not]
      simp [found, Pending.finish]
    dsimp only
    rw [hnone, if_neg Bool.false_ne_true]
    simp [found, Pending.finish, Found.show, Function.comp_def]

end LineShell.Text.Utf8
