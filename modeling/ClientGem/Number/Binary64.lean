/-!
Numbers of 53 binary digits with an exponent of eleven bits: how a decimal is rounded to one, and
the shortest decimal that reads back as one. All arithmetic is exact on natural numbers.
-/

namespace ClientGem.Number

/-- A finite number is `mantissa * 2 ^ exponent` with its sign; zero keeps its sign too. -/
inductive Binary64 where
  | nan
  | infinity (negative : Bool)
  | finite (negative : Bool) (mantissa : Nat) (exponent : Int)
deriving DecidableEq, Repr

namespace Binary64

def twoTo (n : Nat) : Nat :=
  Nat.pow 2 n

def tenTo (n : Nat) : Nat :=
  Nat.pow 10 n

def roundHalfEven (num den : Nat) : Nat :=
  let q := num / den
  let r := num % den
  if 2 * r < den then q
  else if den < 2 * r then q + 1
  else if q % 2 = 0 then q else q + 1

def minExponent : Int := -1074
def maxExponent : Int := 971

/-- `num / den` scaled by `2 ^ -exponent`, as a fraction. -/
def scaleDown (num den : Nat) (exponent : Int) : Nat × Nat :=
  if 0 ≤ exponent then (num, den * twoTo exponent.toNat) else (num * twoTo (-exponent).toNat, den)

def ofFraction (negative : Bool) (num den : Nat) : Binary64 :=
  let estimate : Int := (Nat.log2 num : Int) - (Nat.log2 den : Int)
  let (n, d) := scaleDown num den estimate
  let magnitude := if n < d then estimate - 1 else estimate
  let exponent := max minExponent (magnitude - 52)
  let (n, d) := scaleDown num den exponent
  let mantissa := roundHalfEven n d
  let (mantissa, exponent) :=
    if mantissa = twoTo 53 then (twoTo 52, exponent + 1) else (mantissa, exponent)
  if maxExponent < exponent then infinity negative else finite negative mantissa exponent

/-- The number nearest to `digits * 10 ^ scale`. Beyond four hundred places the answer is fixed. -/
def ofDecimal (negative : Bool) (digits : Nat) (scale : Int) : Binary64 :=
  if digits = 0 then finite negative 0 minExponent
  else
    let places : Int := (Nat.toDigits 10 digits).length + scale
    if 400 < places then infinity negative
    else if places < -400 then finite negative 0 minExponent
    else if 0 ≤ scale then ofFraction negative (digits * tenTo scale.toNat) 1
    else ofFraction negative digits (tenTo (-scale).toNat)

def isFinite : Binary64 → Bool
  | finite .. => true
  | _ => false

/-- Two numbers are the same key when they are equal as numbers; all that are no number agree. -/
def same : Binary64 → Binary64 → Bool
  | nan, nan => true
  | infinity a, infinity b => a == b
  | finite a m e, finite b n f => (m == 0 && n == 0) || (a == b && m == n && e == f)
  | _, _ => false

/-- The ends of the interval of reals that round to `mantissa * 2 ^ exponent`, in quarters of the
unit `2 ^ exponent`. -/
def interval (mantissa : Nat) (exponent : Int) : Nat × Nat :=
  let below := if mantissa = twoTo 52 ∧ minExponent < exponent then 1 else 2
  (4 * mantissa - below, 4 * mantissa + 2)

/-- `mantissa * 2 ^ exponent` and `digits * 10 ^ scale` in one unit, both times four. -/
def common (mantissa : Nat) (exponent : Int) (scale : Int) : Nat × Nat :=
  let binary := twoTo exponent.toNat * tenTo (-scale).toNat
  let decimal := tenTo scale.toNat * twoTo (-exponent).toNat
  (mantissa * binary, 4 * decimal)

/-- The decimal on the grid `10 ^ scale` that reads back and is nearest, if there is one. -/
def onGrid (mantissa : Nat) (exponent : Int) (scale : Int) : Option Nat :=
  let (low, high) := interval mantissa exponent
  let (value, unit) := common (4 * mantissa) exponent scale
  let (lowest, _) := common low exponent scale
  let (highest, _) := common high exponent scale
  let inside (digits : Nat) : Bool :=
    let x := digits * unit
    if mantissa % 2 = 0 then lowest ≤ x && x ≤ highest else lowest < x && x < highest
  let floor := value / unit
  let rest := value % unit
  match inside floor, inside (floor + 1) with
  | true, true => some (if 2 * rest < unit then floor else floor + 1)
  | true, false => some floor
  | false, true => some (floor + 1)
  | false, false => none

def places (mantissa : Nat) (exponent : Int) : Int :=
  if 0 ≤ exponent then (Nat.toDigits 10 (mantissa * twoTo exponent.toNat)).length
  else
    let whole := mantissa / twoTo (-exponent).toNat
    if whole ≠ 0 then (Nat.toDigits 10 whole).length
    else
      let scaled := mantissa * tenTo 400 / twoTo (-exponent).toNat
      ((Nat.toDigits 10 scaled).length : Int) - 400

/-- The fewest digits that read back, with the scale of the last one. -/
def shortest (mantissa : Nat) (exponent : Int) : Nat × Int :=
  let top := places mantissa exponent
  let withPlaces (count : Nat) : Option (Nat × Int) :=
    let scale := top - count
    (onGrid mantissa exponent scale).map fun digits =>
      if digits % 10 = 0 then (digits / 10, scale + 1) else (digits, scale)
  ((List.range 17).findSome? fun i => withPlaces (i + 1)).getD (0, 0)

def positional (digits : Nat) (scale : Int) : String :=
  let text := Nat.toDigits 10 digits
  if 0 ≤ scale then String.ofList (text ++ List.replicate scale.toNat '0' ++ ['.', '0'])
  else
    let fraction := (-scale).toNat
    let padded := List.replicate (fraction + 1 - text.length) '0' ++ text
    let whole := padded.length - fraction
    String.ofList (padded.take whole ++ ['.'] ++ padded.drop whole)

def toText : Binary64 → String
  | nan => "NaN"
  | infinity negative => if negative then "-inf" else "inf"
  | finite negative mantissa exponent =>
    let sign := if negative then "-" else ""
    if mantissa = 0 then sign ++ "0.0"
    else
      let (digits, scale) := shortest mantissa exponent
      sign ++ positional digits scale

def scientific (digits : Nat) (scale : Int) : String :=
  let text := Nat.toDigits 10 digits
  let fraction := if text.length = 1 then [] else '.' :: text.tail
  String.ofList (text.take 1 ++ fraction) ++ "e" ++ toString (scale + text.length - 1)

/-- Like `toText`, but with an exponent from `10 ^ 16` on and below `10 ^ -5`. -/
def toShortText : Binary64 → String
  | nan => ".nan"
  | infinity negative => if negative then "-.inf" else ".inf"
  | finite negative mantissa exponent =>
    let sign := if negative then "-" else ""
    if mantissa = 0 then sign ++ "0.0"
    else
      let (digits, scale) := shortest mantissa exponent
      let whole : Int := (Nat.toDigits 10 digits).length + scale
      sign ++ if -5 < whole ∧ whole ≤ 16 then positional digits scale else scientific digits scale

end Binary64

end ClientGem.Number
