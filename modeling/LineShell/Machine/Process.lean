import LineShell.Machine.Environment
import LineShell.Machine.FileTree
import LineShell.Machine.Interrupts
/-!
# Processes

A process has descriptors, a working directory, a mask for permissions, variables and signal
actions. Its descriptor table
gives to each open number the open description behind it, and a new number is the lowest free one
below the limit of the process.

`DescriptorTable.get?_lowestFree` says that the number found is free, and `isSome_of_lt_lowestFree`
that every number below it is taken.
-/

namespace LineShell

/-- One open number of a process. -/
structure Handle where
  description : Nat
  closeOnExec : Bool
  deriving DecidableEq, Repr

/-- The open numbers of a process. -/
abbrev DescriptorTable := Table Nat Handle

namespace DescriptorTable

/-- The first number from `n` on that is not open, trying at most `fuel` more of them. -/
def firstFree (t : DescriptorTable) : Nat → Nat → Nat
  | 0, n => n
  | fuel + 1, n => if (Table.get? n t).isSome then firstFree t fuel (n + 1) else n

/-- The lowest number that is not open; one of the first `t.length + 1` is free. -/
def lowestFree (t : DescriptorTable) : Nat := firstFree t (t.length + 1) 0

/-- The table without the numbers that end with the start of a program. -/
def atExec (t : DescriptorTable) : DescriptorTable := t.filter (fun e => !e.2.closeOnExec)

theorem firstFree_cases (t : DescriptorTable) (fuel n : Nat) :
    Table.get? (firstFree t fuel n) t = none ∨ firstFree t fuel n = n + fuel := by
  induction fuel generalizing n with
  | zero => exact Or.inr rfl
  | succ fuel ih =>
    unfold firstFree
    split
    · rcases ih (n + 1) with h | h
      · exact Or.inl h
      · exact Or.inr (by omega)
    · rename_i h
      exact Or.inl (by simpa using h)

theorem isSome_of_lt_firstFree {t : DescriptorTable} {fuel n m : Nat} (hn : n ≤ m)
    (hm : m < firstFree t fuel n) : (Table.get? m t).isSome = true := by
  induction fuel generalizing n with
  | zero => simp [firstFree] at hm; omega
  | succ fuel ih =>
    unfold firstFree at hm
    split at hm
    · rename_i h
      by_cases he : n = m
      · exact he ▸ h
      · exact ih (by omega) hm
    · omega

/-- Every number below the lowest free one is open. -/
theorem isSome_of_lt_lowestFree {t : DescriptorTable} {m : Nat} (h : m < lowestFree t) :
    (Table.get? m t).isSome = true := isSome_of_lt_firstFree (Nat.zero_le m) h

/-- A table with all numbers below a bound open is at least as long as the bound. -/
theorem le_length_of_isSome {t : DescriptorTable} {n : Nat}
    (h : ∀ m < n, (Table.get? m t).isSome = true) : n ≤ t.length := by
  induction n generalizing t with
  | zero => exact Nat.zero_le _
  | succ n ih =>
    have hlt := Table.length_remove_lt (h n (Nat.lt_succ_self n))
    have := ih (t := Table.remove n t) fun m hm => by
      rw [Table.get?_remove, if_neg (by omega)]
      exact h m (by omega)
    omega

/-- The lowest free number is free. -/
theorem get?_lowestFree (t : DescriptorTable) : Table.get? (lowestFree t) t = none := by
  rcases firstFree_cases t (t.length + 1) 0 with h | h
  · exact h
  · have := le_length_of_isSome (t := t) fun m hm => isSome_of_lt_lowestFree (t := t)
      (show m < firstFree t (t.length + 1) 0 by omega)
    omega

end DescriptorTable

/-- What belongs to one process. -/
structure Process where
  pid : Nat
  parent : Nat
  descriptors : DescriptorTable
  /-- Descriptor numbers stay below the limit. -/
  limit : Nat
  interrupts : Interrupts
  directory : Inode
  /-- The permissions that new files do not get. -/
  mask : Nat
  environment : Environment
  deriving DecidableEq, Repr

/-- How a process ended. -/
inductive Status where
  | exited (code : Nat)
  | killed (signal : Nat)
  deriving DecidableEq, Repr

/-- The status in the packed form in which a waiting process receives it. -/
def Status.packed : Status → Nat
  | exited code => code % 256 * 256
  | killed signal => signal

/-- A program about to run: which of the installed ones, and its arguments. -/
structure Image where
  program : Text
  argv : List Bytes
  deriving DecidableEq, Repr

end LineShell
