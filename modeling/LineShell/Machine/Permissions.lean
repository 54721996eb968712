/-!
# Permissions

A node of the file tree has three bits, for reading, writing and executing, for its owner, for a
group and for everyone else. All processes run as one user, who owns what they make; what belongs to
the machine is seen with the bits for everyone else.
-/

namespace LineShell

/-- What a process may want to do with a node. Executing a directory is walking through it. -/
inductive Right where
  | read
  | write
  | execute
  deriving DecidableEq, Repr

namespace Right

/-- The bit of a right among three. -/
def bit : Right → Nat
  | read => 4
  | write => 2
  | execute => 1

end Right

/-- The permissions of a node. -/
structure Permissions where
  /-- Twelve bits: three special ones, and three each for the owner, the group and all others. -/
  bits : Nat
  /-- Whether the node belongs to the user. -/
  owned : Bool
  deriving DecidableEq, Repr, Inhabited

namespace Permissions

/-- The permissions of a node that the user has made. -/
def own (bits : Nat) : Permissions := ⟨bits, true⟩

/-- The permissions of a node that belongs to the machine. -/
def ofMachine (bits : Nat) : Permissions := ⟨bits, false⟩

/-- The three bits that count for the user. -/
def effective (p : Permissions) : Nat := if p.owned then p.bits / 64 % 8 else p.bits % 8

/-- Whether the user may do something with the node. -/
def allows (p : Permissions) (r : Right) : Bool := p.effective / r.bit % 2 == 1

/-- Whether the user may make, rename or remove names in the directory. -/
def allowsEntries (p : Permissions) : Bool := p.allows .write && p.allows .execute

/-- The permissions with other bits. -/
def withBits (p : Permissions) (bits : Nat) : Permissions := { p with bits := bits }

/-- The bits of a new node: those wanted that the mask of its maker does not take away. -/
def masked (wanted mask : Nat) : Nat := wanted ^^^ (wanted &&& mask)

end Permissions

end LineShell
