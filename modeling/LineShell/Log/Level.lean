import LineShell.Text.Basic
/-!
# Log levels

How grave a record is. A filter shows the levels up to a *rank*, where rank 0 shows nothing;
`Level.rank?` reads a rank from its name or number, and `rank?_le` says that no written rank goes
beyond `trace`.
-/

namespace LineShell.Log

/-- How grave a record is, the gravest first. -/
inductive Level where
  | error
  | warn
  | info
  | debug
  | trace
  deriving DecidableEq, Repr

namespace Level

/-- The levels a filter shows are those up to a rank; rank 0 shows nothing. -/
def rank : Level → Nat
  | error => 1
  | warn => 2
  | info => 3
  | debug => 4
  | trace => 5

/-- The name of a level, right-aligned to five characters. -/
def label : Level → Text
  | error => Text.lit "ERROR"
  | warn => Text.lit " WARN"
  | info => Text.lit " INFO"
  | debug => Text.lit "DEBUG"
  | trace => Text.lit "TRACE"

/-- The names of the ranks. -/
def names : List (String × Nat) :=
  [("off", 0), ("error", 1), ("warn", 2), ("info", 3), ("debug", 4), ("trace", 5)]

/-- The rank that a number writes, with a plus sign before it or without. -/
def numbered? (word : Text) : Option Nat :=
  match Text.toNat? (if word.head? == some '+' then word.drop 1 else word) with
  | some n => if n ≤ trace.rank then some n else none
  | none => none

/-- The rank that a word names, in any mixture of capital and small letters, or as a number. -/
def rank? (word : Text) : Option Nat :=
  match names.find? (fun e => e.1.toList == Text.toLowerAscii word) with
  | some e => some e.2
  | none => numbered? word

theorem rank?_le {word : Text} {n : Nat} (h : rank? word = some n) : n ≤ trace.rank := by
  unfold rank? at h
  split at h
  · rename_i e he
    obtain rfl : e.2 = n := by simpa using h
    have mem := List.mem_of_find?_eq_some he
    revert mem
    simp only [names, List.mem_cons, List.not_mem_nil, or_false]
    rintro (h | h | h | h | h | h) <;> subst h <;> decide
  · unfold numbered? at h
    split at h
    · split at h <;> simp_all
    · simp at h

end Level

end LineShell.Log
