/-!
The shortest decimal that reads back as a given binary floating-point number: of the decimals
with the fewest digits that round to it, the nearest.
-/

namespace ReleaseDrift.Decimal

structure Scientific where
  digits : Nat
  exponent : Int
  deriving Repr, DecidableEq

def floorLog (num den : Nat) : Int :=
  if den ≤ num then ((Nat.toDigits 10 (num / den)).length : Int) - 1
  else
    let places := (Nat.toDigits 10 (den / num)).length
    if num * Nat.pow 10 (places - 1) = den then -((places : Int) - 1) else -(places : Int)

/-- A positive number `mid / den` and the interval around it of the reals that round to it.
    The ends belong to the interval when `closed` says so. -/
structure Interval where
  low : Nat
  mid : Nat
  high : Nat
  den : Nat
  closed : Bool

namespace Interval

def holds (interval : Interval) (n unit : Nat) : Bool :=
  if interval.closed then interval.low ≤ n * unit && n * unit ≤ interval.high
  else interval.low < n * unit && n * unit < interval.high

def onGrid? (interval : Interval) (exponent : Int) : Option Scientific :=
  let scale := if exponent < 0 then Nat.pow 10 (-exponent).toNat else 1
  let unit := interval.den * if exponent < 0 then 1 else Nat.pow 10 exponent.toNat
  let scaled : Interval :=
    { interval with
      low := interval.low * scale, mid := interval.mid * scale, high := interval.high * scale }
  let below := scaled.mid / unit
  let above := below + 1
  match scaled.holds below unit, scaled.holds above unit with
  | true, true =>
      let down := scaled.mid - below * unit
      let up := above * unit - scaled.mid
      let pick := if down < up then below else if up < down then above
        else if below % 2 = 0 then below else above
      some ⟨pick, exponent⟩
  | true, false => some ⟨below, exponent⟩
  | false, true => some ⟨above, exponent⟩
  | false, false => none

def firstGrid (interval : Interval) (exponent : Int) : (tries : Nat) → Scientific
  | 0 => ⟨interval.mid / interval.den, 0⟩
  | tries + 1 =>
      match interval.onGrid? exponent with
      | some decimal => decimal
      | none => interval.firstGrid (exponent - 1) tries

def shortest (interval : Interval) : Scientific :=
  interval.firstGrid (floorLog interval.mid interval.den) 18

end Interval

/-- The interval of a positive number `significand · 2 ^ exponent` with 53 binary digits at
    most. Below a power of two the neighbours are half as far apart. -/
def interval (significand : Nat) (exponent : Int) (atPower : Bool) : Interval :=
  let scale := if exponent < 2 then 1 else Nat.pow 2 (exponent - 2).toNat
  let den := if exponent < 2 then Nat.pow 2 (2 - exponent).toNat else 1
  { low := (4 * significand - if atPower then 1 else 2) * scale
    mid := 4 * significand * scale
    high := (4 * significand + 2) * scale
    den
    closed := significand % 2 == 0 }

def ofBits (bits : Nat) : Scientific :=
  let fraction : Nat := bits % Nat.pow 2 52
  let biased : Nat := bits / Nat.pow 2 52 % Nat.pow 2 11
  if biased = 0 then
    if fraction = 0 then ⟨0, 0⟩ else (interval fraction (-1074) false).shortest
  else
    (interval (Nat.pow 2 52 + fraction) ((biased : Int) - 1075)
      (fraction == 0 && biased > 1)).shortest

def Scientific.strip (decimal : Scientific) : (tries : Nat) → Scientific
  | 0 => decimal
  | tries + 1 =>
      if decimal.digits ≠ 0 ∧ decimal.digits % 10 = 0 then
        Scientific.strip ⟨decimal.digits / 10, decimal.exponent + 1⟩ tries
      else decimal

def shortest (x : Float) : Scientific := (ofBits x.toBits.toNat).strip 20

end ReleaseDrift.Decimal
