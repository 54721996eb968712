import LineShell.Proofs.Calls
/-!
# The numbers of a child

A child gives one of its numbers another meaning, and closes what it needed for that. What is left
are the numbers of the shell with that one put in: `moved_readEnd` and `moved_put` for the number
that is moved, `atExec_keeping` for an output that was kept meanwhile, and ends with the start of a
program.

Entries that an owner does not use count for nothing where entries are looked for
(`Table.filterMap_put`).
-/

namespace LineShell

/-! ### Tables -/

namespace Table

variable {κ ν : Type} [DecidableEq κ] {key : κ} {t : Table κ ν}

/-- A new key goes to the end. -/
theorem put_of_get?_none (h : get? key t = none) (value : ν) :
    put key value t = t ++ [(key, value)] := by
  induction t with
  | nil => rfl
  | cons e t ih =>
    obtain ⟨k, v⟩ := e
    rw [get?] at h
    split at h
    · cases h
    · rename_i hk
      rw [put, if_neg hk, ih h]
      rfl

/-- A key that is there keeps its place. -/
theorem put_append (h : (get? key t).isSome = true) (value : ν) (u : Table κ ν) :
    put key value (t ++ u) = put key value t ++ u := by
  induction t with
  | nil => cases h
  | cons e t ih =>
    obtain ⟨k, v⟩ := e
    rw [get?] at h
    rw [List.cons_append, put, put]
    split
    · rfl
    · rename_i hk
      rw [if_neg hk] at h
      rw [ih h]
      rfl

theorem put_put (value value' : ν) : put key value' (put key value t) = put key value' t := by
  induction t with
  | nil =>
    show (if key = key then [(key, value')] else _) = [(key, value')]
    exact if_pos rfl
  | cons e t ih =>
    obtain ⟨k, v⟩ := e
    by_cases hk : key = k
    · rw [put, if_pos hk, put, if_pos rfl, put, if_pos hk]
    · rw [put, if_neg hk, put, if_neg hk, ih, put, if_neg hk]

theorem mem_of_mem_put {value : ν} {e : κ × ν} (h : e ∈ put key value t) :
    e = (key, value) ∨ e ∈ t := by
  induction t with
  | nil => exact .inl (List.mem_singleton.1 h)
  | cons d t ih =>
    obtain ⟨k, v⟩ := d
    rw [put] at h
    split at h
    · rcases List.mem_cons.1 h with rfl | h
      · exact .inl rfl
      · exact .inr (List.mem_cons_of_mem _ h)
    · rcases List.mem_cons.1 h with rfl | h
      · exact .inr List.mem_cons_self
      · rcases ih h with heq | hmem
        · exact .inl heq
        · exact .inr (List.mem_cons_of_mem _ hmem)

theorem mem_of_get? {value : ν} (h : get? key t = some value) : (key, value) ∈ t := by
  induction t with
  | nil => cases h
  | cons e t ih =>
    obtain ⟨k, v⟩ := e
    rw [get?] at h
    split at h
    · rename_i hk
      cases h
      rw [hk]
      exact List.mem_cons_self
    · exact List.mem_cons_of_mem _ (ih h)

/-- A key that is there is not one that is missing. -/
theorem ne_of_get? {other : κ} {value : ν} (h : get? key t = some value)
    (hnone : get? other t = none) : key ≠ other := by
  rintro rfl
  rw [hnone] at h
  cases h

/-- Among entries that count for nothing, the one that is put in counts alone. -/
theorem filterMap_put {β : Type} {f : κ × ν → Option β} (h : ∀ e ∈ t, f e = none) (value : ν) :
    (put key value t).filterMap f = (f (key, value)).toList := by
  induction t with
  | nil =>
    rw [put, List.filterMap_cons]
    cases f (key, value) <;> rfl
  | cons e t ih =>
    obtain ⟨k, v⟩ := e
    have hrest : ∀ e ∈ t, f e = none := fun e he => h e (List.mem_cons_of_mem _ he)
    rw [put]
    split
    · rw [List.filterMap_cons, List.filterMap_eq_nil_iff.2 hrest]
      cases f (key, value) <;> rfl
    · rw [List.filterMap_cons, h _ List.mem_cons_self, ih hrest]

end Table

/-! ### Numbers that move -/

namespace DescriptorTable

open Table

variable {t : DescriptorTable} {fd target readEnd writeEnd description output : Nat}
  {handle handle' : Handle} {saved : Option Nat}

/-- No free number is below the one that is found. -/
theorem lowestFree_le (h : get? fd t = none) : lowestFree t ≤ fd := by
  refine Nat.le_of_not_lt fun hlt => ?_
  have hopen := isSome_of_lt_lowestFree hlt
  rw [h] at hopen
  cases hopen

/-- A number that was free is moved to another one. -/
theorem moved_put (hfree : get? fd t = none) (hne : fd ≠ target) :
    remove fd (put target handle' (put fd handle t)) = put target handle' t := by
  rw [remove_put_of_ne hne, remove_put hfree]

/-- The numbers of the ends are two more. -/
theorem get?_withEnds (hread : fd ≠ readEnd) (hwrite : fd ≠ writeEnd) (description : Nat)
    (t : DescriptorTable) : get? fd (withEnds readEnd writeEnd description t) = get? fd t := by
  unfold withEnds
  rw [get?_put_of_ne hwrite, get?_put_of_ne hread]

/-- With the other end closed, the read end is moved. -/
theorem moved_readEnd (hfree : FreeFor readEnd writeEnd t) (hne : readEnd ≠ target) :
    remove readEnd (put target handle (remove writeEnd (withEnds readEnd writeEnd description t))) =
      put target handle t := by
  obtain ⟨hread, hwrite, hends⟩ := hfree
  have hwrite' : get? writeEnd (put readEnd ⟨description, false⟩ t) = none := by
    rw [get?_put_of_ne hends.symm, hwrite]
  unfold withEnds
  rw [remove_put_of_ne hne, remove_put hwrite', remove_put hread]

/-- A number that does not end with the start of a program is there afterwards. -/
theorem get?_atExec_put (h : handle.closeOnExec = false) (fd : Nat) (t : DescriptorTable) :
    get? fd (atExec (put fd handle t)) = some handle := by
  have hfound : ∀ t : DescriptorTable,
      get? fd (List.filter (fun e => !e.2.closeOnExec) ((fd, handle) :: t)) = some handle := by
    intro t
    rw [List.filter_cons_of_pos (by simp [h]), get?, if_pos rfl]
  unfold atExec
  induction t with
  | nil => exact hfound []
  | cons e t ih =>
    obtain ⟨k, v⟩ := e
    rw [put]
    split
    · exact hfound t
    · rename_i hne
      rw [List.filter_cons]
      split
      · rw [get?, if_neg hne, ih]
      · exact ih

/-- The table with an output kept at a number, if there is one for it. -/
def keeping (saved : Option Nat) (output : Nat) (t : DescriptorTable) : DescriptorTable :=
  match saved with
  | none => t
  | some fd => put fd ⟨output, true⟩ t

/-- The number at which an output is kept is not used otherwise. -/
def FreeToKeep (saved : Option Nat) (t : DescriptorTable) : Prop :=
  ∀ fd ∈ saved, get? fd t = none

/-- **A kept output ends with the start of a program.** -/
theorem atExec_keeping (hfree : FreeToKeep saved t) (hopen : (get? target t).isSome = true)
    (handle : Handle) (output : Nat) :
    atExec (put target handle (keeping saved output t)) = atExec (put target handle t) := by
  cases saved with
  | none => rfl
  | some fd =>
    show atExec (put target handle (put fd ⟨output, true⟩ t)) = _
    unfold atExec
    rw [put_of_get?_none (hfree fd rfl), put_append hopen, List.filter_append]
    exact List.append_nil _

theorem remove_keeping (hne : ∀ n ∈ saved, n ≠ fd) (output : Nat) (t : DescriptorTable) :
    remove fd (keeping saved output t) = keeping saved output (remove fd t) := by
  cases saved with
  | none => rfl
  | some n => exact remove_put_of_ne (Ne.symm (hne n rfl)) _ _

theorem get?_keeping (hne : ∀ n ∈ saved, n ≠ fd) (output : Nat) (t : DescriptorTable) :
    get? fd (keeping saved output t) = get? fd t := by
  cases saved with
  | none => rfl
  | some n => exact get?_put_of_ne (Ne.symm (hne n rfl)) _ _

/-- The output that was kept is brought back. -/
theorem restored_keeping (hfree : get? fd t = none) (hne : fd ≠ target) :
    remove fd (put target handle' (put target handle (keeping (some fd) output t))) =
      put target handle' t := by
  rw [put_put]
  exact moved_put hfree hne

end DescriptorTable

end LineShell
