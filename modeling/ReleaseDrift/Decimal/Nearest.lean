/-!
From decimals to floating-point numbers.
-/

namespace ReleaseDrift.Decimal

/-- The floating-point number nearest to some digits times a power of ten, unless the decimal is
    beyond all of them. -/
def nearest? (digits : Nat) (exponent : Int) : Option Float :=
  let places := (Nat.toDigits 10 digits).length + exponent
  if digits = 0 ∨ places < -400 then some 0.0
  else if places > 400 then none
  else
    let x := if exponent < 0 then Float.ofScientific digits true exponent.natAbs
      else Float.ofScientific digits false exponent.toNat
    if x.isInf then none else some x

end ReleaseDrift.Decimal
