import ClientGem.Document.Value
import ClientGem.Yaml.QuotedScalar

/-!
What a plain scalar stands for: null, a truth value, an integer, a floating-point number, or its
own text. Digits after a leading zero are text.
-/

namespace ClientGem.Yaml

open Document Number

def isNullWord (s : String) : Bool :=
  ["null", "Null", "NULL", "~"].contains s

def boolWord? (s : String) : Option Bool :=
  if ["true", "True", "TRUE"].contains s then some true
  else if ["false", "False", "FALSE"].contains s then some false
  else none

def radixNumber? (radix : Nat) (digits : List Char) : Option Nat :=
  if digits.isEmpty then none
  else digits.foldlM (fun n c => (hexValue? c).bind fun d =>
    if d < radix then some (n * radix + d) else none) 0

def isSign (c : Char) : Bool :=
  c == '+' || c == '-'

def hasLeadingZero (cs : List Char) : Bool :=
  match (match cs with | c :: rest => if isSign c then rest else c :: rest | [] => []) with
  | '0' :: c :: rest => (c :: rest).all Char.isDigit
  | _ => false

/-- Digits after the mark of their base, or decimal digits without a leading zero. -/
def magnitude? (cs : List Char) : Option Nat :=
  let marked :=
    match cs with
    | '0' :: 'x' :: digits => radixNumber? 16 digits
    | '0' :: 'o' :: digits => radixNumber? 8 digits
    | '0' :: 'b' :: digits => radixNumber? 2 digits
    | _ => none
  marked.or (if hasLeadingZero cs then none else radixNumber? 10 cs)

def integer? (cs : List Char) : Option Int :=
  match cs with
  | '-' :: rest => (magnitude? rest).map fun n => -(n : Int)
  | '+' :: rest => (magnitude? rest).map fun n => (n : Int)
  | cs => (magnitude? cs).map fun n => (n : Int)

/-- Digits, perhaps a point, perhaps an exponent; at least one digit beside the point. -/
def decimal? (negative : Bool) (cs : List Char) : Option Binary64 :=
  let (whole, rest) := (cs.takeWhile Char.isDigit, cs.dropWhile Char.isDigit)
  let (fraction, rest) :=
    match rest with
    | '.' :: rest => (rest.takeWhile Char.isDigit, rest.dropWhile Char.isDigit)
    | rest => ([], rest)
  if whole.isEmpty && fraction.isEmpty then none
  else
    let digits := ((radixNumber? 10 (whole ++ fraction)).getD 0)
    let scaled (exponent : Int) := Binary64.ofDecimal negative digits (exponent - fraction.length)
    match rest with
    | [] => some (scaled 0)
    | c :: rest =>
      if c == 'e' || c == 'E' then
        match rest with
        | '-' :: rest => (radixNumber? 10 rest).map fun n => scaled (-(n : Int))
        | '+' :: rest => (radixNumber? 10 rest).map fun n => scaled n
        | rest => (radixNumber? 10 rest).map fun n => scaled n
      else none

def float? (s : String) : Option Binary64 :=
  if [".inf", ".Inf", ".INF", "+.inf", "+.Inf", "+.INF"].contains s then some (.infinity false)
  else if ["-.inf", "-.Inf", "-.INF"].contains s then some (.infinity true)
  else if [".nan", ".NaN", ".NAN"].contains s then some .nan
  else
    let number :=
      match s.toList with
      | '-' :: rest => decimal? true rest
      | '+' :: rest => decimal? false rest
      | cs => decimal? false cs
    number.filter Binary64.isFinite

def fitsValue (n : Int) : Bool :=
  -0x8000000000000000 ≤ n && n ≤ 0xffffffffffffffff

/-- Larger integers are refused, up to the size where they count as floating-point numbers. -/
def isRefused (n : Int) : Bool :=
  !fitsValue n && -0x80000000000000000000000000000000 ≤ n &&
    n ≤ 0xffffffffffffffffffffffffffffffff

def integerValue? (spot : Spot) (s : String) : Except Fault (Option Value) :=
  match integer? s.toList with
  | none => .ok none
  | some n =>
    if fitsValue n then .ok (some (.int n))
    else if isRefused n then .error (.wideInteger spot n)
    else .ok none

def plainValue (spot : Spot) (s : String) : Except Fault Value := do
  if s.isEmpty || isNullWord s then .ok .null
  else
    match boolWord? s with
    | some b => .ok (.bool b)
    | none =>
      match ← integerValue? spot s with
      | some value => .ok value
      | none =>
        if hasLeadingZero s.toList then .ok (.text s)
        else
          match float? s with
          | some x => .ok (.float x)
          | none => .ok (.text s)

end ClientGem.Yaml
