import LineShell.Line.Shape
/-!
# Argument vectors

The words of a segment become *slots*. A word `$NAME` is replaced by the value of the variable,
once and as one slot, and leaves an absent slot when there is no such variable; any other word
stands for itself. Only as many words as the cap allows get a slot, and the rest are counted as
dropped.

The *effective arguments* are the slots before the first absent one, and the *command* is slot 0
when it is present and not empty.

* `ArgVector.ofSegmentM` asks for the variables in any monad, `ArgVector.ofSegment` by a function.
* `command?_eq_some_iff` says when there is a command, and which.
-/

namespace LineShell

/-- The slots of one command; an absent slot comes from an undefined variable. -/
structure ArgVector where
  slots : List (Option Text)
  deriving DecidableEq, Repr, Inhabited

/-- The words of one segment beyond the cap, when there are some. -/
structure Truncation where
  limit : Nat
  dropped : Nat
  deriving DecidableEq, Repr

/-- A vector and how many words found no slot. -/
structure Tokenized where
  vector : ArgVector
  dropped : Nat
  deriving DecidableEq, Repr

namespace ArgVector

/-- The present values before the first absent slot. -/
def present : List (Option Text) → List Text
  | some value :: rest => value :: present rest
  | _ => []

/-- The effective arguments. -/
def args (v : ArgVector) : List Text := present v.slots

/-- The effective argument of a position. -/
def arg? (v : ArgVector) (index : Nat) : Option Text := v.args[index]?

/-- The command name, if there is a usable one. -/
def command? (v : ArgVector) : Option Text :=
  match v.slots with
  | some name :: _ => if name.isEmpty then none else some name
  | _ => none

/-- Whether there is nothing to run. -/
def isEmpty (v : ArgVector) : Bool := v.command?.isNone

/-- Whether the segment had no words at all. -/
def isBlank (v : ArgVector) : Bool := v.slots.isEmpty

/-- The vector without its first slots. -/
def shifted (v : ArgVector) (n : Nat) : ArgVector := ⟨v.slots.drop n⟩

/-- The slot of one word: the value of a variable for `$NAME`, the word itself otherwise. -/
def slotM {m : Type → Type} [Monad m] (ask : Text → m (Option Text)) : Text → m (Option Text)
  | '$' :: name => ask name
  | word => pure (some word)

/-- The words of a segment: those of its part before a comment. -/
def segmentWords (segment : Text) : List Text := Text.words (code segment)

/-- Tokenizes a segment, asking for the variables of the words that get a slot, in order. -/
def ofSegmentM {m : Type → Type} [Monad m] (ask : Text → m (Option Text)) (cap : Nat)
    (segment : Text) : m Tokenized := do
  let words := segmentWords segment
  let slots ← (words.take cap).mapM (slotM ask)
  pure ⟨⟨slots⟩, (words.drop cap).length⟩

/-- Tokenizes a segment under a given meaning of the variables. -/
def ofSegment (vars : Text → Option Text) (cap : Nat) (segment : Text) : Tokenized :=
  Id.run (ofSegmentM (fun name => pure (vars name)) cap segment)

/-- Tokenizes a segment and keeps the names that were asked for, in order. -/
def ofSegmentAsked (vars : Text → Option Text) (cap : Nat) (segment : Text) :
    Tokenized × List Text :=
  (ofSegmentM (fun name => do modify (name :: ·); pure (vars name)) cap segment
    : StateM (List Text) Tokenized).run [] |> fun r => (r.1, r.2.reverse)

end ArgVector

/-- The warning that a tokenized segment gives. -/
def Tokenized.truncation? (limit : Nat) (t : Tokenized) : Option Truncation :=
  if t.dropped = 0 then none else some ⟨limit, t.dropped⟩

namespace ArgVector

theorem command?_eq_some_iff {v : ArgVector} {name : Text} :
    v.command? = some name ↔ name ≠ [] ∧ v.slots.head? = some (some name) := by
  cases v with
  | mk slots =>
    cases slots with
    | nil => simp [command?]
    | cons slot rest =>
      cases slot with
      | none => simp [command?]
      | some value =>
        simp only [command?, List.isEmpty_iff, List.head?_cons, Option.some.injEq]
        constructor
        · intro h
          split at h
          · simp at h
          · rename_i hne
            simp only [Option.some.injEq] at h
            exact ⟨h ▸ hne, h⟩
        · rintro ⟨hne, rfl⟩
          simp [hne]

end ArgVector

end LineShell
