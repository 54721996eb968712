/-!
# Tables

A table gives a value to each of finitely many keys, in the order in which the keys were first put
in. Environments, directories and descriptor tables are tables. The laws say what `put` and
`remove` do to `get?`, key by key, and that putting in a new key and taking it away again changes
nothing (`remove_put`).
-/

namespace LineShell

/-- Keys with their values; the first entry of a key counts. -/
abbrev Table (κ ν : Type) := List (κ × ν)

namespace Table

variable {κ ν : Type} [DecidableEq κ]

/-- The value of a key. -/
def get? (key : κ) : Table κ ν → Option ν
  | [] => none
  | (k, v) :: rest => if key = k then some v else get? key rest

/-- Gives a key a value: in its place when it has one, at the end otherwise. -/
def put (key : κ) (value : ν) : Table κ ν → Table κ ν
  | [] => [(key, value)]
  | (k, v) :: rest => if key = k then (key, value) :: rest else (k, v) :: put key value rest

/-- Takes a key away. -/
def remove (key : κ) : Table κ ν → Table κ ν
  | [] => []
  | (k, v) :: rest => if key = k then remove key rest else (k, v) :: remove key rest

@[simp] theorem get?_nil (key : κ) : get? key ([] : Table κ ν) = none := rfl

theorem get?_put (key other : κ) (value : ν) (t : Table κ ν) :
    get? other (put key value t) = if other = key then some value else get? other t := by
  induction t with
  | nil => simp [put, get?]
  | cons e t ih =>
    obtain ⟨k, v⟩ := e
    by_cases hk : key = k
    · subst hk
      by_cases ho : other = key <;> simp [put, get?, ho]
    · by_cases ho : other = k
      · subst ho
        simp [put, get?, hk, Ne.symm hk]
      · simp [put, get?, hk, ho, ih]

@[simp] theorem get?_put_self (key : κ) (value : ν) (t : Table κ ν) :
    get? key (put key value t) = some value := by simp [get?_put]

theorem get?_put_of_ne {key other : κ} (h : other ≠ key) (value : ν) (t : Table κ ν) :
    get? other (put key value t) = get? other t := by simp [get?_put, h]

theorem get?_remove (key other : κ) (t : Table κ ν) :
    get? other (remove key t) = if other = key then none else get? other t := by
  induction t with
  | nil => simp [remove]
  | cons e t ih =>
    obtain ⟨k, v⟩ := e
    by_cases hk : key = k
    · subst hk
      by_cases ho : other = key <;> simp_all [remove, get?]
    · by_cases ho : other = k
      · subst ho
        simp [remove, get?, hk, Ne.symm hk]
      · simp [remove, get?, hk, ho, ih]

/-- A key that was new leaves no trace. -/
theorem remove_put {key : κ} {t : Table κ ν} (h : get? key t = none) (value : ν) :
    remove key (put key value t) = t := by
  induction t with
  | nil => simp [put, remove]
  | cons e t ih =>
    obtain ⟨k, v⟩ := e
    by_cases hk : key = k <;> simp_all [put, remove, get?]

theorem remove_put_of_ne {key other : κ} (h : other ≠ key) (value : ν) (t : Table κ ν) :
    remove other (put key value t) = put key value (remove other t) := by
  induction t with
  | nil => simp [put, remove, h]
  | cons e t ih =>
    obtain ⟨k, v⟩ := e
    by_cases hk : key = k
    · subst hk
      simp [put, remove, h]
    · by_cases ho : other = k
      · subst ho
        simp [put, remove, hk, ih]
      · simp [put, remove, hk, ho, ih]

theorem length_remove_le (key : κ) (t : Table κ ν) : (remove key t).length ≤ t.length := by
  induction t with
  | nil => simp [remove]
  | cons e t ih =>
    obtain ⟨k, v⟩ := e
    unfold remove
    split
    · exact Nat.le_succ_of_le ih
    · simpa using ih

theorem length_remove_lt {key : κ} {t : Table κ ν} (h : (get? key t).isSome = true) :
    (remove key t).length < t.length := by
  induction t with
  | nil => simp at h
  | cons e t ih =>
    obtain ⟨k, v⟩ := e
    by_cases hk : key = k
    · simpa [remove, hk] using Nat.lt_succ_of_le (length_remove_le k t)
    · simpa [remove, hk] using ih (by simpa [get?, hk] using h)

end Table

end LineShell
