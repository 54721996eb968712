/-!
# Text and bytes

What the shell reads, names and prints is *text*, a list of characters; what descriptors carry and
files hold is a list of *bytes*. Both are lists, so that every rule below is a statement about
lists.

* `Text.ofNat` writes a count in decimal, `Text.hex` in shortest lower-case hexadecimal.
* `before`/`after` cut a text at the first character of a class; `before_append_after` says that
  nothing but the cut character is lost.
* `Bytes.pieces` and `Bytes.join` cut bytes at a separator and put them together again.
-/

namespace LineShell

/-- A text is the list of its characters. -/
abbrev Text := List Char

/-- What a file holds and a descriptor carries. -/
abbrev Bytes := List UInt8

namespace Text

/-- The text of a string literal. -/
abbrev lit (s : String) : Text := s.toList

/-- A count in decimal digits, without leading zeros. -/
def ofNat (n : Nat) : Text := Nat.toDigits 10 n

/-- A code in lower-case hexadecimal digits, without leading zeros. -/
def hex (n : Nat) : Text := Nat.toDigits 16 n

/-- The number that a run of ASCII digits writes, nothing for any other text. -/
def toNat? (t : Text) : Option Nat :=
  if t.isEmpty || !t.all Char.isDigit then none
  else some (t.foldl (fun n c => 10 * n + (c.toNat - 48)) 0)

/-- The part before the first character of the class, all of it when there is none. -/
def before (p : Char → Bool) (t : Text) : Text := t.takeWhile (fun c => !p c)

/-- The part behind the first character of the class, nothing when there is none. -/
def after (p : Char → Bool) (t : Text) : Option Text :=
  match t.dropWhile (fun c => !p c) with
  | [] => none
  | _ :: rest => some rest

/-- The part behind a given beginning. -/
def dropStart? (start t : Text) : Option Text :=
  if start.isPrefixOf t then some (t.drop start.length) else none

/-- The text without the run of characters of the class at its end. -/
def dropEndWhile (p : Char → Bool) (t : Text) : Text :=
  (t.reverse.dropWhile p).reverse

/-- The pieces put together with a separator between any two of them. -/
def join (sep : Text) : List Text → Text
  | [] => []
  | [piece] => piece
  | piece :: rest => piece ++ sep ++ join sep rest

/-- Every piece followed by a line feed. -/
def unlines (lines : List Text) : Text := lines.flatMap (· ++ ['\n'])

/-- ASCII capitals become small letters; other characters stay. -/
def toLowerAscii (t : Text) : Text := t.map Char.toLower

theorem after_eq_none_iff {p : Char → Bool} {t : Text} :
    after p t = none ↔ ∀ c ∈ t, p c = false := by
  unfold after
  induction t with
  | nil => simp
  | cons c t ih => by_cases h : p c <;> simp_all

theorem before_append_after {p : Char → Bool} {t rest : Text} (h : after p t = some rest) :
    ∃ c, p c = true ∧ t = before p t ++ c :: rest := by
  unfold after at h
  unfold before
  induction t with
  | nil => simp at h
  | cons c t ih =>
    by_cases hc : p c = true
    · simp [hc] at h
      exact ⟨c, hc, by simp [hc, h]⟩
    · simp only [Bool.not_eq_true] at hc
      simp only [List.dropWhile_cons, hc, Bool.not_false, if_true] at h
      obtain ⟨d, hd, ht⟩ := ih h
      exact ⟨d, hd, by simpa [List.takeWhile_cons, hc] using ht⟩

theorem mem_before {p : Char → Bool} {t : Text} {c : Char} (h : c ∈ before p t) : p c = false := by
  unfold before at h
  induction t with
  | nil => simp at h
  | cons d t ih =>
    rw [List.takeWhile_cons] at h
    split at h
    · rename_i hd
      rcases List.mem_cons.1 h with rfl | h
      · simpa using hd
      · exact ih h
    · simp at h

end Text

namespace Bytes

/-- The pieces of bytes between separators, empty ones included; never no piece. -/
def pieces (separator : UInt8) (bytes : Bytes) : List Bytes :=
  bytes.foldr (fun b acc =>
    if b = separator then [] :: acc
    else match acc with
      | [] => [[b]]
      | piece :: rest => (b :: piece) :: rest) [[]]

/-- The pieces put together with a separator between any two of them. -/
def join (separator : Bytes) : List Bytes → Bytes
  | [] => []
  | [piece] => piece
  | piece :: rest => piece ++ separator ++ join separator rest

/-- The bytes without the run of bytes of the class at their end. -/
def dropEndWhile (p : UInt8 → Bool) (bytes : Bytes) : Bytes := (bytes.reverse.dropWhile p).reverse

end Bytes

end LineShell
