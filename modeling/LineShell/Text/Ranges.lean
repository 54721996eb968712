/-!
# Ranges of code points

A character class is written as tables of ranges, lowest first. `Ranges.contains` looks a code point
up, and `Ranges.contains_iff` says that it answers membership in one of the ranges. A table is
checked by `Ranges.separated`: no range is empty, and a gap lies between any two of them.
-/

namespace LineShell.Text

/-- Ranges of code points with both ends, in tables of moderate length. -/
abbrev Ranges := List (List (Nat × Nat))

namespace Ranges

/-- Whether a code point lies in one of the ranges. -/
def contains (tables : Ranges) (n : Nat) : Bool :=
  tables.any (fun t => t.any (fun r => r.1 ≤ n && n ≤ r.2))

/-- Each range ends before the next begins, with a gap. -/
def separated : List (Nat × Nat) → Bool
  | a :: b :: rest => a.1 ≤ a.2 && a.2 + 1 < b.1 && separated (b :: rest)
  | [a] => a.1 ≤ a.2
  | [] => true

theorem contains_iff {tables : Ranges} {n : Nat} :
    tables.contains n = true ↔ ∃ r ∈ tables.flatten, r.1 ≤ n ∧ n ≤ r.2 := by
  simp only [contains, List.any_eq_true, Bool.and_eq_true, decide_eq_true_eq, List.mem_flatten]
  constructor
  · rintro ⟨t, ht, r, hr, h⟩
    exact ⟨r, ⟨t, ht, hr⟩, h⟩
  · rintro ⟨r, ⟨t, ht, hr⟩, h⟩
    exact ⟨t, ht, r, hr, h⟩

end Ranges

end LineShell.Text
