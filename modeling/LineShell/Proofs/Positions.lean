import LineShell.Line.Shape
import LineShell.Proofs.Decoding
/-!
# Positions in the bytes of a text

A cut of a text can also be found by its bytes: as the position at which the bytes of an operator
stand, with a slice before and a slice behind it. Such a slice need not exist, since a position may
lie outside the text or inside a character (`Text.splitAt?`).

For an ASCII operator it always does: the bytes of other characters are too large to hold one, so
that the first position of its bytes is where the text is cut (`Bytes.position?_bytes`). The
headline is `Text.slice?_eq_cutAt`.
-/

namespace LineShell

/-! ### Slices -/

namespace Bytes

/-- The first position at which bytes stand within others. -/
def position? (needle : Bytes) : Bytes → Option Nat
  | [] => if needle.isEmpty then some 0 else none
  | b :: rest =>
    if needle.isPrefixOf (b :: rest) then some 0 else (position? needle rest).map (· + 1)

end Bytes

namespace Text

open Utf8

/-- The text before and behind a position in its bytes. There is none for a position outside the
text or inside a character. -/
def splitAt? : Nat → Text → Option (Text × Text)
  | 0, t => some ([], t)
  | _ + 1, [] => none
  | n + 1, c :: t =>
    if (encodeChar c).length ≤ n + 1 then
      (splitAt? (n + 1 - (encodeChar c).length) t).map fun cut => (c :: cut.1, cut.2)
    else none

/-- The slices before and behind the first position of an operator, if it has one. Nothing at all
comes out where a slice does not exist. -/
def slice? (operator t : Text) : Option (Option (Text × Text)) :=
  match Bytes.position? operator.bytes t.bytes with
  | none => some none
  | some position => do
    let (before, rest) ← splitAt? position t
    let (_, behind) ← splitAt? operator.bytes.length rest
    return some (before, behind)

theorem bytes_cons (c : Char) (t : Text) : Text.bytes (c :: t) = encodeChar c ++ t.bytes := rfl

theorem encodeChar_ne_nil (c : Char) : encodeChar c ≠ [] := by
  unfold encodeChar
  dsimp only
  repeat' split
  all_goals exact List.cons_ne_nil _ _

/-- **A position between two parts of a text splits it there.** -/
theorem splitAt?_append (x y : Text) : splitAt? (bytes x).length (x ++ y) = some (x, y) := by
  induction x with
  | nil => cases y <;> rfl
  | cons c x ih =>
    have hlength : (bytes (c :: x)).length = (encodeChar c).length + (bytes x).length := by
      rw [bytes_cons, List.length_append]
    have hpos : 0 < (encodeChar c).length := List.length_pos_iff.2 (encodeChar_ne_nil c)
    obtain ⟨n, hn⟩ : ∃ n, (encodeChar c).length + (bytes x).length = n + 1 :=
      ⟨(encodeChar c).length + (bytes x).length - 1, by omega⟩
    rw [hlength, hn, List.cons_append]
    unfold splitAt?
    rw [if_pos (by omega), ← hn, Nat.add_sub_cancel_left, ih]
    rfl

/-! ### The bytes of ASCII operators -/

/-- All characters are ASCII. -/
def IsAscii (t : Text) : Prop := ∀ c ∈ t, c.toNat < 0x80

theorem encodeChar_of_lt {c : Char} (h : c.toNat < 0x80) : encodeChar c = [c.toNat.toUInt8] := by
  unfold encodeChar
  dsimp only
  rw [if_pos h]

/-- The byte of an ASCII character begins the bytes of no other one. -/
theorem eq_of_byte_mem {a c : Char} (ha : a.toNat < 0x80)
    (h : a.toNat.toUInt8 ∈ encodeChar c) : a = c := by
  rcases Nat.lt_or_ge c.toNat 0x80 with hc | hc
  · rw [encodeChar_of_lt hc, List.mem_singleton] at h
    have hvalue := congrArg UInt8.toNat h
    rw [toNat_toUInt8 (by omega), toNat_toUInt8 (by omega)] at hvalue
    exact Char.toNat_inj.1 hvalue
  · have hhigh := le_of_mem_encodeChar hc h
    rw [toNat_toUInt8 (by omega)] at hhigh
    omega

/-- The bytes of an ASCII operator begin those of a text exactly if it begins the text. -/
theorem bytes_prefix_iff {operator : Text} (h : IsAscii operator) (t : Text) :
    bytes operator <+: bytes t ↔ operator <+: t := by
  induction operator generalizing t with
  | nil => exact iff_of_true List.nil_prefix List.nil_prefix
  | cons a operator ih =>
    have ha : a.toNat < 0x80 := h a List.mem_cons_self
    cases t with
    | nil =>
      rw [bytes_cons, encodeChar_of_lt ha]
      exact iff_of_false (fun hprefix => List.cons_ne_nil _ _ (List.prefix_nil.1 hprefix))
        (fun hprefix => List.cons_ne_nil _ _ (List.prefix_nil.1 hprefix))
    | cons c t =>
      rw [bytes_cons, bytes_cons, List.cons_prefix_cons]
      constructor
      · intro hprefix
        -- The first byte of an ASCII character is all of it, and occurs in no other character.
        have hac : a = c := by
          obtain ⟨b, rest, hb⟩ := List.exists_cons_of_ne_nil (encodeChar_ne_nil c)
          rw [encodeChar_of_lt ha, hb, List.singleton_append, List.cons_append,
            List.cons_prefix_cons] at hprefix
          exact eq_of_byte_mem ha (by rw [hb, hprefix.1]; exact List.mem_cons_self)
        subst hac
        exact ⟨rfl, (ih (fun c hc => h c (List.mem_cons_of_mem _ hc)) t).1
          ((List.prefix_append_right_inj _).1 hprefix)⟩
      · rintro ⟨rfl, hprefix⟩
        exact (List.prefix_append_right_inj _).2
          ((ih (fun c hc => h c (List.mem_cons_of_mem _ hc)) t).2 hprefix)

end Text

namespace Bytes

open Text Text.Utf8

/-- Bytes that cannot be the first of those looked for are passed over. -/
theorem position?_append {b : UInt8} {needle skipped : Bytes} (h : b ∉ skipped) (rest : Bytes) :
    position? (b :: needle) (skipped ++ rest) =
      (position? (b :: needle) rest).map (· + skipped.length) := by
  induction skipped with
  | nil =>
    rw [List.nil_append]
    cases position? (b :: needle) rest <;> rfl
  | cons a skipped ih =>
    have hne : b ≠ a := fun heq => h (heq ▸ List.mem_cons_self)
    have hnot : (b :: needle).isPrefixOf (a :: (skipped ++ rest)) = false := by
      rw [List.isPrefixOf, beq_false_of_ne hne, Bool.false_and]
    rw [List.cons_append, position?, hnot, if_neg Bool.false_ne_true,
      ih fun hmem => h (List.mem_cons_of_mem a hmem), Option.map_map]
    rfl

/-- **The bytes of an ASCII operator stand first where the text is cut.** -/
theorem position?_bytes {operator : Text} (h : IsAscii operator) (hne : operator ≠ []) (t : Text) :
    position? (bytes operator) (bytes t) =
      (cutAt operator t).map fun cut => (bytes cut.1).length := by
  obtain ⟨a, more, rfl⟩ := List.exists_cons_of_ne_nil hne
  have ha : a.toNat < 0x80 := h a List.mem_cons_self
  have hbytes : bytes (a :: more) = a.toNat.toUInt8 :: bytes more := by
    rw [bytes_cons, encodeChar_of_lt ha]
    rfl
  induction t with
  | nil =>
    rw [hbytes]
    rfl
  | cons c t ih =>
    have hprefix : (bytes (a :: more)).isPrefixOf (bytes (c :: t)) =
        (a :: more).isPrefixOf (c :: t) := by
      rw [Bool.eq_iff_iff, List.isPrefixOf_iff_prefix, List.isPrefixOf_iff_prefix]
      exact bytes_prefix_iff h (c :: t)
    obtain ⟨b, rest, hb⟩ := List.exists_cons_of_ne_nil (encodeChar_ne_nil c)
    cases hfound : (a :: more).isPrefixOf (c :: t) with
    | true =>
      rw [hfound] at hprefix
      unfold cutAt
      rw [hfound, if_pos rfl]
      rw [bytes_cons c, hb, List.cons_append] at hprefix ⊢
      rw [position?, hprefix, if_pos rfl]
      rfl
    | false =>
      -- Not found here: the search moves on by a whole character, and never stops within one.
      have hnext : position? (bytes (a :: more)) (bytes (c :: t)) =
          (position? (bytes (a :: more)) (bytes t)).map (· + (encodeChar c).length) := by
        by_cases hac : a = c
        · subst hac
          rw [hfound] at hprefix
          rw [bytes_cons a t, encodeChar_of_lt ha, List.singleton_append] at hprefix ⊢
          rw [position?, hprefix, if_neg Bool.false_ne_true]
          rfl
        · rw [bytes_cons c t, hbytes]
          exact position?_append (fun hmem => hac (eq_of_byte_mem ha hmem)) (bytes t)
      unfold cutAt
      rw [hfound, if_neg Bool.false_ne_true, hnext, ih, Option.map_map, Option.map_map]
      refine congrArg (Option.map · _) (funext fun cut => ?_)
      show (bytes cut.1).length + (encodeChar c).length = (bytes (c :: cut.1)).length
      rw [bytes_cons, List.length_append, Nat.add_comm]

end Bytes

namespace Text

theorem slice?_eq_cutAt {operator : Text} (h : IsAscii operator) (hne : operator ≠ []) (t : Text) :
    slice? operator t = some (cutAt operator t) := by
  unfold slice?
  rw [Bytes.position?_bytes h hne]
  cases hcut : cutAt operator t with
  | none => rfl
  | some cut =>
    obtain ⟨before, behind⟩ := cut
    have ht : t = before ++ (operator ++ behind) := by
      rw [← List.append_assoc]
      exact cutAt_eq_some hcut
    dsimp only [Option.map_some]
    rw [ht, splitAt?_append]
    dsimp only [Option.bind_eq_bind, Option.bind_some]
    rw [splitAt?_append]
    rfl

end Text

end LineShell
