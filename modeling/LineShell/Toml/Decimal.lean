import LineShell.Text.Basic
/-!
# Decimal numbers with a fraction

A number as its digits write it, and its text in a message. The text is that of the nearest double,
in the fewest digits that lead back to it, without an exponent and with a point. `nearest` gives the
double as `m · 2 ^ e`; `shortest` looks for the digits on coarser grids first, in exact arithmetic.
-/

namespace LineShell.Toml

/-- A number with a fraction: `digits · 10 ^ exponent`, or one of the special numbers. -/
inductive Decimal where
  | finite (negative : Bool) (digits : Nat) (exponent : Int)
  | infinite (negative : Bool)
  | notANumber
  deriving DecidableEq, Repr

namespace Decimal

/-- Half a step above the greatest number that a double holds: from here on numbers are infinite. -/
def infiniteFrom : Nat := Nat.pow 2 1024 - Nat.pow 2 970

/-- Whether `digits · 10 ^ exponent` is too great for a double. -/
def overflows (digits : Nat) (exponent : Int) : Bool :=
  if digits = 0 then false
  else
    let places := (Nat.toDigits 10 digits).length
    if 400 < exponent + places then true
    else if exponent + places < 0 then false
    else if 0 ≤ exponent then infiniteFrom ≤ digits * Nat.pow 10 exponent.toNat
    else infiniteFrom * Nat.pow 10 (-exponent).toNat ≤ digits

/-- A fraction of two counts times a power, as a fraction of two counts. -/
def scale (base : Nat) (f : Nat × Nat) (exponent : Int) : Nat × Nat :=
  if 0 ≤ exponent then (f.1 * Nat.pow base exponent.toNat, f.2)
  else (f.1, f.2 * Nat.pow base (-exponent).toNat)

/-- The count nearest to a fraction, the even one of two. -/
def round (f : Nat × Nat) : Nat :=
  let q := f.1 / f.2
  let twice := 2 * (f.1 % f.2)
  if twice < f.2 || (twice = f.2 && q % 2 = 0) then q else q + 1

/-- The double `m · 2 ^ e` that is nearest to a fraction. -/
def nearest (f : Nat × Nat) : Nat × Int :=
  let e := max ((f.1.log2 : Int) - f.2.log2 - 53) (-1074)
  let m := round (scale 2 f (-e))
  -- The estimate of the exponent may be one too small.
  if m < Nat.pow 2 53 then (m, e) else (round (scale 2 f (-(e + 1))), e + 1)

/-- The comparison of two fractions. -/
def before (f g : Nat × Nat) : Bool := f.1 * g.2 < g.1 * f.2

/-- The fewest digits `d · 10 ^ k` that a double `m · 2 ^ e` is nearest to. -/
def shortest (m : Nat) (e : Int) : Nat × Int :=
  let value := scale 2 (m, 1) e
  let low := if m = Nat.pow 2 52 && -1074 < e then scale 2 (4 * m - 1, 1) (e - 2)
    else scale 2 (2 * m - 1, 1) (e - 1)
  let high := scale 2 (2 * m + 1, 1) (e - 1)
  let fits := fun (g : Nat × Nat) =>
    if m % 2 = 0 then !before g low && !before high g else before low g && before g high
  -- How many digits stand before the point, less zeros behind it.
  let places : Int :=
    if value.2 ≤ value.1 then ((Nat.toDigits 10 (value.1 / value.2)).length : Int)
    else 1 - (Nat.toDigits 10 ((value.2 - 1) / value.1)).length
  let grid := fun (count : Nat) =>
    let k := places - count
    let down := (fun f : Nat × Nat => f.1 / f.2) (scale 10 value (-k))
    match fits (scale 10 (down, 1) k), fits (scale 10 (down + 1, 1) k) with
    | true, true => some (round (scale 10 value (-k)), k)
    | true, false => some (down, k)
    | false, true => some (down + 1, k)
    | false, false => none
  ((List.range 17).findSome? (fun n => grid (n + 1))).getD (m, 0)

/-- Digits with a point in front of the last `places` of them. -/
def pointed (digits : Text) (places : Nat) : Text :=
  let digits := List.replicate (places + 1 - digits.length) '0' ++ digits
  digits.take (digits.length - places) ++ ['.'] ++ digits.drop (digits.length - places)

/-- The text of a number in a message. -/
def shown : Decimal → Text
  | finite negative digits exponent =>
    let sign : Text := if negative then ['-'] else []
    let magnitude := (Nat.toDigits 10 digits).length + exponent
    if overflows digits exponent then sign ++ Text.lit "inf"
    else if digits = 0 || magnitude < -400 then sign ++ Text.lit "0.0"
    else
      let (m, e) := nearest (scale 10 (digits, 1) exponent)
      if m = 0 then sign ++ Text.lit "0.0"
      else
        let (d, k) := shortest m e
        sign ++ (if 0 ≤ k then Text.ofNat (d * Nat.pow 10 k.toNat) ++ Text.lit ".0"
          else pointed (Text.ofNat d) (-k).toNat)
  | infinite negative => (if negative then ['-'] else []) ++ Text.lit "inf"
  | notANumber => Text.lit "NaN"

end Decimal

end LineShell.Toml
