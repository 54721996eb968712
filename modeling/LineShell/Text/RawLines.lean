import LineShell.Text.Basic
/-!
# Raw lines

Bytes cut behind every line feed. The last line may lack one; nothing is lost (`rawLines_flatten`).
-/

namespace LineShell

/-- The line feed. -/
abbrev lineFeed : UInt8 := 10

/-- The lines of bytes, each with its line feed if it has one. -/
def rawLines (bytes : Bytes) : List Bytes :=
  bytes.foldr (fun b acc =>
    if b = lineFeed then [b] :: acc
    else match acc with
      | [] => [[b]]
      | line :: rest => (b :: line) :: rest) []

theorem rawLines_cons (b : UInt8) (bytes : Bytes) :
    rawLines (b :: bytes) =
      if b = lineFeed then [b] :: rawLines bytes
      else match rawLines bytes with
        | [] => [[b]]
        | line :: rest => (b :: line) :: rest := rfl

theorem rawLines_flatten (bytes : Bytes) : (rawLines bytes).flatten = bytes := by
  induction bytes with
  | nil => rfl
  | cons b bytes ih =>
    rw [rawLines_cons]
    split
    · simp [ih]
    · split
      · rename_i h
        rw [h] at ih
        simp_all
      · rename_i line rest h
        rw [h] at ih
        rw [← ih]
        simp

end LineShell
