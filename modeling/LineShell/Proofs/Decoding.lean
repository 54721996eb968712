import LineShell.Text.Utf8
/-!
# Reading back what was written

The reading machine of UTF-8 finds the characters that were written, each of them between two idle
moments: `found_encodeChar`, by the number of bytes that the character takes. The headline is
`decode_encode`.

An ASCII byte is found wherever it stands, among bytes of every kind: it goes on with no character,
so that it ends one that was begun (`found_ascii`).

`found` is the scan without its accumulator; `scan_eq_found` says that the two are equal.
-/

namespace LineShell.Text.Utf8

/-! ### The scan without an accumulator -/

/-- Everything found in the bytes from a given state, in order. -/
def found (s : Pending) : Bytes → List Found
  | [] => s.finish
  | b :: rest => (s.step b).1 ++ found (s.step b).2 rest

theorem scanRev_eq (before : List Found) (s : Pending) (bytes : Bytes) :
    scanRev before s bytes = (found s bytes).reverse ++ before := by
  induction bytes generalizing before s with
  | nil =>
    unfold scanRev found
    cases s <;> rfl
  | cons b rest ih =>
    unfold scanRev found
    dsimp only
    rw [ih, List.reverse_append, List.append_assoc]

theorem scan_eq_found (bytes : Bytes) : scan bytes = found .idle bytes := by
  unfold scan
  rw [scanRev_eq, List.append_nil, List.reverse_reverse]

/-! ### Bytes of one character -/

/-- A byte in range that is not the last one of its character. -/
theorem found_more {value more low high : Nat} {b : UInt8} (hlow : low ≤ b.toNat)
    (hhigh : b.toNat ≤ high) (hmore : 1 < more) (rest : Bytes) :
    found (.inside value more low high) (b :: rest) =
      found (.inside (value * 0x40 + (b.toNat - 0x80)) (more - 1) 0x80 0xBF) rest := by
  have hstep : (Pending.inside value more low high).step b =
      ([], .inside (value * 0x40 + (b.toNat - 0x80)) (more - 1) 0x80 0xBF) := by
    unfold Pending.step
    simp only [hlow, hhigh, decide_true, Bool.and_self, if_true]
    rw [if_neg (by omega)]
  rw [found, hstep]
  rfl

/-- A byte in range that is the last one of its character. -/
theorem found_last {value low high : Nat} {b : UInt8} (hlow : low ≤ b.toNat)
    (hhigh : b.toNat ≤ high) (rest : Bytes) :
    found (.inside value 1 low high) (b :: rest) =
      .char (Char.ofNat (value * 0x40 + (b.toNat - 0x80))) :: found .idle rest := by
  have hstep : (Pending.inside value 1 low high).step b =
      ([.char (Char.ofNat (value * 0x40 + (b.toNat - 0x80)))], .idle) := by
    unfold Pending.step
    simp only [hlow, hhigh, decide_true, Bool.and_self, if_true]
    rfl
  rw [found, hstep]
  rfl

/-- A byte out of range ends the part before it, and is read as the first of what follows. -/
theorem found_out {value more low high : Nat} {b : UInt8}
    (h : ¬(low ≤ b.toNat ∧ b.toNat ≤ high)) (rest : Bytes) :
    found (.inside value more low high) (b :: rest) = .invalid :: found .idle (b :: rest) := by
  have hrange : (decide (low ≤ b.toNat) && decide (b.toNat ≤ high)) = false := by
    rw [← Bool.decide_and, decide_eq_false_iff_not]
    exact h
  rw [found, found, Pending.step, Pending.step, hrange]
  rfl

/-- Bytes that are small enough keep their value. -/
theorem toNat_toUInt8 {n : Nat} (h : n < 0x100) : n.toUInt8.toNat = n := by
  rw [Nat.toUInt8_eq, UInt8.toNat_ofNat']
  exact Nat.mod_eq_of_lt h

/-- The bytes of a character that is not ASCII are too large for ASCII. -/
theorem le_of_mem_encodeChar {c : Char} (hc : 0x80 ≤ c.toNat) {b : UInt8} (h : b ∈ encodeChar c) :
    0x80 ≤ b.toNat := by
  have hhigh : ∀ n : Nat, 0x80 ≤ n → n < 0x100 → 0x80 ≤ n.toUInt8.toNat := fun n hlow hn => by
    rw [toNat_toUInt8 hn]
    exact hlow
  have hvalid : c.toNat < 0xD800 ∨ 0xDFFF < c.toNat ∧ c.toNat < 0x110000 := c.valid
  unfold encodeChar at h
  generalize c.toNat = n at h hc hvalid
  dsimp only at h
  rw [if_neg (by omega)] at h
  split at h
  · simp only [List.mem_cons, List.not_mem_nil, or_false] at h
    rcases h with rfl | rfl <;> exact hhigh _ (by omega) (by omega)
  split at h
  · simp only [List.mem_cons, List.not_mem_nil, or_false] at h
    rcases h with rfl | rfl | rfl <;> exact hhigh _ (by omega) (by omega)
  · simp only [List.mem_cons, List.not_mem_nil, or_false] at h
    rcases h with rfl | rfl | rfl | rfl <;> exact hhigh _ (by omega) (by omega)

/-! The first bytes of a character, by how many bytes follow. The ranges for the second byte leave
out what is overlong, a surrogate, or too large. -/

theorem start_one {b : UInt8} (h : b.toNat < 0x80) :
    Pending.start b = ([.char (Char.ofNat b.toNat)], .idle) := by
  unfold Pending.start
  dsimp only
  rw [if_pos h]

theorem start_two {b : UInt8} (hlow : 0xC2 ≤ b.toNat) (hhigh : b.toNat < 0xE0) :
    Pending.start b = ([], .inside (b.toNat - 0xC0) 1 0x80 0xBF) := by
  unfold Pending.start
  dsimp only
  rw [if_neg (by omega), if_neg (by omega), if_pos hhigh]

theorem start_three {b : UInt8} (hlow : 0xE0 ≤ b.toNat) (hhigh : b.toNat < 0xF0) :
    Pending.start b = ([], .inside (b.toNat - 0xE0) 2 (if b.toNat = 0xE0 then 0xA0 else 0x80)
      (if b.toNat = 0xED then 0x9F else 0xBF)) := by
  unfold Pending.start
  dsimp only
  rw [if_neg (by omega), if_neg (by omega), if_neg (by omega)]
  by_cases hfirst : b.toNat = 0xE0
  · rw [hfirst]
    rfl
  · by_cases hsurrogate : b.toNat = 0xED
    · rw [hsurrogate]
      rfl
    · simp only [beq_iff_eq, hfirst, hsurrogate, if_false, hhigh, if_true]

theorem start_four {b : UInt8} (hlow : 0xF0 ≤ b.toNat) (hhigh : b.toNat < 0xF5) :
    Pending.start b = ([], .inside (b.toNat - 0xF0) 3 (if b.toNat = 0xF0 then 0x90 else 0x80)
      (if b.toNat = 0xF4 then 0x8F else 0xBF)) := by
  have hcases : b.toNat = 0xF0 ∨ b.toNat = 0xF1 ∨ b.toNat = 0xF2 ∨ b.toNat = 0xF3 ∨
      b.toNat = 0xF4 := by omega
  unfold Pending.start
  rcases hcases with h | h | h | h | h <;> rw [h] <;> rfl

/-- A byte that begins no character. -/
theorem start_invalid {b : UInt8} (hlow : 0x80 ≤ b.toNat) (h : b.toNat < 0xC2 ∨ 0xF5 ≤ b.toNat) :
    Pending.start b = ([.invalid], .idle) := by
  unfold Pending.start
  dsimp only
  rw [if_neg (by omega)]
  rcases h with h | h
  · rw [if_pos h]
  · have hne : ∀ n < 0xF5, (b.toNat == n) = false := fun n hn => beq_false_of_ne (by omega)
    rw [hne 0xE0 (by decide), hne 0xED (by decide), hne 0xF0 (by decide), hne 0xF4 (by decide)]
    simp only [Bool.false_eq_true, if_false]
    rw [if_neg (by omega), if_neg (by omega), if_neg (by omega), if_neg (by omega)]

/-! ### ASCII bytes -/

/-- No ASCII byte is one of a character that was begun. -/
def Pending.ExcludesAscii : Pending → Prop
  | .idle => True
  | .inside _ _ low _ => 0x80 ≤ low

theorem excludesAscii_start (b : UInt8) : (Pending.start b).2.ExcludesAscii := by
  fun_cases Pending.start b
  all_goals first
    | exact trivial
    | exact Nat.le_of_ble_eq_true rfl

theorem excludesAscii_step (s : Pending) (b : UInt8) : (s.step b).2.ExcludesAscii := by
  fun_cases Pending.step s b
  · exact excludesAscii_start b
  · exact trivial
  · exact Nat.le_refl 0x80
  · rename_i hstart
    have h := excludesAscii_start b
    rwa [hstart] at h

/-- **An ASCII byte stands for itself**, whatever is before it. -/
theorem found_ascii {a : UInt8} (ha : a.toNat < 0x80) {s : Pending} (hs : s.ExcludesAscii)
    (x y : Bytes) :
    found s (x ++ a :: y) = found s x ++ .char (Char.ofNat a.toNat) :: found .idle y := by
  have hidle : found .idle (a :: y) = .char (Char.ofNat a.toNat) :: found .idle y := by
    rw [found, Pending.step, start_one ha]
    rfl
  induction x generalizing s with
  | nil =>
    cases s with
    | idle => exact hidle
    | inside value more low high =>
      have hlow : 0x80 ≤ low := hs
      rw [List.nil_append, found_out (by omega), hidle]
      rfl
  | cons b x ih =>
    rw [List.cons_append, found, found, ih (excludesAscii_step s b), List.append_assoc]

theorem decode_ascii {a : UInt8} (ha : a.toNat < 0x80) (x y : Bytes) :
    decode (x ++ a :: y) = decode x ++ Char.ofNat a.toNat :: decode y := by
  have hidle : Pending.idle.ExcludesAscii := trivial
  unfold decode
  rw [scan_eq_found, scan_eq_found, scan_eq_found, found_ascii ha hidle, List.map_append,
    List.map_cons]
  rfl

/-! ### Characters and texts -/

/-- **A character that was written is found**, and nothing of it is left pending. -/
theorem found_encodeChar (c : Char) (rest : Bytes) :
    found .idle (encodeChar c ++ rest) = .char c :: found .idle rest := by
  -- A character is no surrogate, which leaves the second byte of three within its bounds.
  have hvalid : c.toNat < 0xD800 ∨ 0xDFFF < c.toNat ∧ c.toNat < 0x110000 := c.valid
  have hback : Char.ofNat c.toNat = c := Char.ofNat_toNat c
  unfold encodeChar
  generalize c.toNat = n at hvalid hback
  dsimp only
  -- Up to four bytes: each split below is one more byte in front of those that continue it.
  split
  · have hone : n.toUInt8.toNat = n := toNat_toUInt8 (by omega)
    rw [List.singleton_append, found, Pending.step, start_one (by omega), hone, hback]
    rfl
  split
  · have h₀ : (0xC0 + n / 0x40).toUInt8.toNat = 0xC0 + n / 0x40 := toNat_toUInt8 (by omega)
    have h₁ : (0x80 + n % 0x40).toUInt8.toNat = 0x80 + n % 0x40 := toNat_toUInt8 (by omega)
    have hvalue : (0xC0 + n / 0x40 - 0xC0) * 0x40 + (0x80 + n % 0x40 - 0x80) = n := by omega
    rw [List.cons_append, List.singleton_append, found, Pending.step,
      start_two (by omega) (by omega), List.nil_append, found_last (by omega) (by omega), h₀, h₁,
      hvalue, hback]
  split
  · have h₀ : (0xE0 + n / 0x1000).toUInt8.toNat = 0xE0 + n / 0x1000 := toNat_toUInt8 (by omega)
    have h₁ : (0x80 + n / 0x40 % 0x40).toUInt8.toNat = 0x80 + n / 0x40 % 0x40 :=
      toNat_toUInt8 (by omega)
    have h₂ : (0x80 + n % 0x40).toUInt8.toNat = 0x80 + n % 0x40 := toNat_toUInt8 (by omega)
    have hvalue : ((0xE0 + n / 0x1000 - 0xE0) * 0x40 + (0x80 + n / 0x40 % 0x40 - 0x80)) * 0x40 +
        (0x80 + n % 0x40 - 0x80) = n := by omega
    rw [List.cons_append, List.cons_append, List.singleton_append, found, Pending.step,
      start_three (by omega) (by omega), List.nil_append, found_more ?_ ?_ (by omega),
      found_last (by omega) (by omega), h₀, h₁, h₂, hvalue, hback]
    · rw [h₀, h₁]
      split <;> omega
    · rw [h₀, h₁]
      split <;> omega
  · have h₀ : (0xF0 + n / 0x40000).toUInt8.toNat = 0xF0 + n / 0x40000 := toNat_toUInt8 (by omega)
    have h₁ : (0x80 + n / 0x1000 % 0x40).toUInt8.toNat = 0x80 + n / 0x1000 % 0x40 :=
      toNat_toUInt8 (by omega)
    have h₂ : (0x80 + n / 0x40 % 0x40).toUInt8.toNat = 0x80 + n / 0x40 % 0x40 :=
      toNat_toUInt8 (by omega)
    have h₃ : (0x80 + n % 0x40).toUInt8.toNat = 0x80 + n % 0x40 := toNat_toUInt8 (by omega)
    have hvalue : (((0xF0 + n / 0x40000 - 0xF0) * 0x40 + (0x80 + n / 0x1000 % 0x40 - 0x80)) * 0x40 +
        (0x80 + n / 0x40 % 0x40 - 0x80)) * 0x40 + (0x80 + n % 0x40 - 0x80) = n := by omega
    rw [List.cons_append, List.cons_append, List.cons_append, List.singleton_append, found,
      Pending.step, start_four (by omega) (by omega), List.nil_append,
      found_more ?_ ?_ (by omega), found_more (by omega) (by omega) (by omega),
      found_last (by omega) (by omega), h₀, h₁, h₂, h₃, hvalue, hback]
    · rw [h₀, h₁]
      split <;> omega
    · rw [h₀, h₁]
      split <;> omega

theorem found_encode (t : Text) (rest : Bytes) :
    found .idle (encode t ++ rest) = t.map Found.char ++ found .idle rest := by
  induction t with
  | nil => rfl
  | cons c t ih =>
    unfold encode at ih ⊢
    rw [List.flatMap_cons, List.append_assoc, found_encodeChar, ih]
    rfl

/-- **Decoding undoes encoding.** -/
theorem decode_encode (t : Text) : decode (encode t) = t := by
  have hfound : scan (encode t) = t.map Found.char := by
    have h := found_encode t []
    rw [List.append_nil] at h
    rw [scan_eq_found, h]
    exact List.append_nil _
  unfold decode
  rw [hfound, List.map_map]
  exact List.map_id t

/-- A character that was begun leaves something behind, whatever follows. -/
theorem found_inside_ne_nil (value more low high : Nat) (bytes : Bytes) :
    found (.inside value more low high) bytes ≠ [] := by
  induction bytes generalizing value more low high with
  | nil => exact List.cons_ne_nil _ _
  | cons b rest ih =>
    unfold found Pending.step
    dsimp only
    split
    · split
      · exact List.cons_ne_nil _ _
      · exact ih _ _ _ _
    · exact List.cons_ne_nil _ _

theorem found_idle_ne_nil (b : UInt8) (rest : Bytes) : found .idle (b :: rest) ≠ [] := by
  have hstart : (Pending.start b).1 ≠ [] ∨
      ∃ value more low high, Pending.start b = ([], .inside value more low high) := by
    fun_cases Pending.start b
    all_goals first
      | exact .inl (List.cons_ne_nil _ _)
      | exact .inr ⟨_, _, _, _, rfl⟩
  unfold found Pending.step
  rcases hstart with hne | ⟨value, more, low, high, heq⟩
  · exact fun h => hne (List.append_eq_nil_iff.1 h).1
  · rw [heq]
    exact found_inside_ne_nil value more low high rest

/-- **Only no bytes decode to no text.** -/
theorem decode_eq_nil_iff {bytes : Bytes} : decode bytes = [] ↔ bytes = [] := by
  unfold decode
  rw [scan_eq_found, List.map_eq_nil_iff]
  cases bytes with
  | nil => exact iff_of_true rfl rfl
  | cons b rest => exact iff_of_false (found_idle_ne_nil b rest) (List.cons_ne_nil b rest)

end LineShell.Text.Utf8
