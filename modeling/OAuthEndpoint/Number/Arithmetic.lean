import OAuthEndpoint.Number.Binary64

/-! Products and quotients of floating point numbers: the exact result, rounded once. -/

namespace OAuthEndpoint.Number.Binary64

/-- The number nearest to a fraction, which may be zero. -/
def rounded (negative : Bool) (fraction : Nat × Nat) : Binary64 :=
  if fraction.1 = 0 then .finite negative 0 (-1074) else ofFraction negative fraction

def isZero : Binary64 → Bool
  | .finite _ mantissa _ => mantissa = 0
  | _ => false

def isFinite : Binary64 → Bool
  | .finite _ _ _ => true
  | _ => false

def isNegative : Binary64 → Bool
  | .nan => false
  | .infinite negative => negative
  | .finite negative _ _ => negative

/-- Zero times an infinity is no number. -/
def mul (x y : Binary64) : Binary64 :=
  let negative := x.isNegative != y.isNegative
  match x, y with
  | .nan, _ => .nan
  | _, .nan => .nan
  | .finite _ mantissa exponent, .finite _ mantissa' exponent' =>
    rounded negative (scale 2 (exponent + exponent') (mantissa * mantissa', 1))
  | _, _ => if x.isZero || y.isZero then .nan else .infinite negative

/-- A quotient of zeros or of infinities is no number, and a number by zero is infinite. -/
def div (x y : Binary64) : Binary64 :=
  let negative := x.isNegative != y.isNegative
  match x, y with
  | .nan, _ => .nan
  | _, .nan => .nan
  | .infinite _, .infinite _ => .nan
  | .infinite _, .finite _ _ _ => .infinite negative
  | .finite _ _ _, .infinite _ => .finite negative 0 (-1074)
  | .finite _ mantissa exponent, .finite _ mantissa' exponent' =>
    if mantissa' = 0 then if mantissa = 0 then .nan else .infinite negative
    else rounded negative (scale 2 (exponent - exponent') (mantissa, mantissa'))

end OAuthEndpoint.Number.Binary64
