/-! Double-precision numbers by their 64 bits. Rounding is done in exact integer
arithmetic, to the nearest number and on a tie to the even one, so every result
here is the correctly rounded one. The text is the shortest that reads back. -/
namespace AlertRelay

structure Binary64 where
  bits : UInt64
deriving DecidableEq

namespace Binary64

def pow2 (n : Nat) : Nat := Nat.pow 2 n
def pow10 (n : Nat) : Nat := Nat.pow 10 n

def negative (x : Binary64) : Bool := x.bits.toNat ≥ pow2 63
def exponentField (x : Binary64) : Nat := x.bits.toNat / pow2 52 % pow2 11
def fractionField (x : Binary64) : Nat := x.bits.toNat % pow2 52

def isFinite (x : Binary64) : Bool := x.exponentField < 2047
def isNaN (x : Binary64) : Bool := x.exponentField == 2047 && x.fractionField != 0
def isInfinite (x : Binary64) : Bool := x.exponentField == 2047 && x.fractionField == 0
def isZero (x : Binary64) : Bool := x.exponentField == 0 && x.fractionField == 0

/-- A finite number is its significand times two to its scale. -/
def significand (x : Binary64) : Nat :=
  if x.exponentField = 0 then x.fractionField else x.fractionField + pow2 52
def scale (x : Binary64) : Int :=
  if x.exponentField = 0 then -1074 else (x.exponentField : Int) - 1075

def ofMagnitude (neg : Bool) (magnitude : Nat) : Binary64 :=
  ⟨UInt64.ofNat (magnitude + if neg then pow2 63 else 0)⟩

def infinity (neg : Bool) : Binary64 := ofMagnitude neg (2047 * pow2 52)
def zero (neg : Bool) : Binary64 := ofMagnitude neg 0
def nan : Binary64 := ofMagnitude false (2047 * pow2 52 + pow2 51)

def divNearest (num den : Nat) : Nat :=
  let q := num / den
  let r := 2 * (num % den)
  if r > den || (r == den && q % 2 == 1) then q + 1 else q

def ofRatio (neg : Bool) (num den : Nat) : Binary64 :=
  if num = 0 then zero neg
  else
    let scaled (e : Int) : Nat × Nat :=
      if e < 0 then (num * pow2 (-e).toNat, den) else (num, den * pow2 e.toNat)
    let e₀ : Int := (num.log2 : Int) - den.log2 - 52
    let e₁ := if (scaled e₀).1 / (scaled e₀).2 < pow2 52 then e₀ - 1 else e₀
    let e := max e₁ (-1074)
    let m := (e + 1074).toNat * pow2 52 + divNearest (scaled e).1 (scaled e).2
    if m ≥ 2047 * pow2 52 then infinity neg else ofMagnitude neg m

/-- The number nearest to `digits` times ten to `exponent`. Exponents so far out
that the answer is zero or infinite are not expanded. -/
def ofDecimal (neg : Bool) (digits : Nat) (exponent : Int) : Binary64 :=
  let size : Int := (Nat.toDigits 10 digits).length
  if digits = 0 then zero neg
  else if size + exponent > 400 then infinity neg
  else if size + exponent < -400 then zero neg
  else if exponent < 0 then ofRatio neg digits (pow10 (-exponent).toNat)
  else ofRatio neg (digits * pow10 exponent.toNat) 1

def ofInt? (n : Int) : Option Binary64 :=
  let x := ofRatio (n < 0) n.natAbs 1
  if x.isFinite then some x else none

def toInt? (x : Binary64) : Option Int :=
  if !x.isFinite then none
  else
    let m := x.significand
    let e := x.scale
    let whole : Option Nat :=
      if e ≥ 0 then some (m * pow2 e.toNat)
      else if m % pow2 (-e).toNat = 0 then some (m / pow2 (-e).toNat) else none
    whole.map (fun n => if x.negative then -(n : Int) else n)

def numEq (x y : Binary64) : Bool := !x.isNaN && !y.isNaN && (x == y || (x.isZero && y.isZero))

def toFraction (x : Binary64) : Int × Nat :=
  let m : Int := if x.negative then -(x.significand : Int) else x.significand
  if x.scale ≥ 0 then (m * pow2 x.scale.toNat, 1) else (m, pow2 (-x.scale).toNat)

def add (x y : Binary64) : Binary64 :=
  if x.isNaN || y.isNaN then nan
  else if x.isInfinite then
    if y.isInfinite && x.negative != y.negative then nan else x
  else if y.isInfinite then y
  else
    let (a, b) := x.toFraction
    let (c, d) := y.toFraction
    let n := a * d + c * b
    if n = 0 then zero (x.negative && y.negative) else ofRatio (n < 0) n.natAbs (b * d)

def mul (x y : Binary64) : Binary64 :=
  let neg := x.negative != y.negative
  if x.isNaN || y.isNaN then nan
  else if x.isInfinite || y.isInfinite then
    if x.isZero || y.isZero then nan else infinity neg
  else
    let (a, b) := x.toFraction
    let (c, d) := y.toFraction
    ofRatio neg (a * c).natAbs (b * d)

def neg (x : Binary64) : Binary64 := ofMagnitude (!x.negative) (x.bits.toNat % pow2 63)

/-- The bounds of the reals that round to a positive number, over a common denominator:
low end, the number itself, high end, denominator. -/
def interval (m : Nat) (e : Int) : Nat × Nat × Nat × Nat :=
  let closer := m = pow2 52 ∧ e > -1074
  let low := if closer then 4 * m - 1 else 4 * m - 2
  let e := e - 2
  if e ≥ 0 then
    let f := pow2 e.toNat
    (low * f, 4 * m * f, (4 * m + 2) * f, 1)
  else (low, 4 * m, 4 * m + 2, pow2 (-e).toNat)

def leadingExponent (num den : Nat) : Nat → Int → Int
  | 0, k => k
  | fuel + 1, k =>
    let reached := if k ≥ 0 then num ≥ den * pow10 k.toNat else num * pow10 (-k).toNat ≥ den
    if reached then k else leadingExponent num den fuel (k - 1)

/-- The fewest digits that read back as `m` times two to `e`, with the exponent of the last one.
Of two candidates of that many digits the nearer is taken, on a tie the even one. -/
def shortest (m : Nat) (e : Int) : Nat × Int :=
  let (low, mid, high, den) := interval m e
  let k := leadingExponent mid den 700 310
  let inside (num d : Nat) : Bool :=
    if m % 2 = 0 then low * d ≤ num * den && num * den ≤ high * d
    else low * d < num * den && num * den < high * d
  let grid (n : Nat) : Option (Nat × Int) :=
    let u : Int := k - (n : Int) + 1
    let up : Nat := if u ≥ 0 then pow10 u.toNat else 1
    let down : Nat := if u ≥ 0 then 1 else pow10 (-u).toNat
    let a := mid * down / (den * up)
    let below := inside (a * up) down
    let above := inside ((a + 1) * up) down
    let nearest := divNearest (mid * down) (den * up)
    match below, above with
    | true, true => some (nearest, u)
    | true, false => some (a, u)
    | false, true => some (a + 1, u)
    | false, false => none
  ((List.range 17).findSome? (fun i => grid (i + 1))).getD (0, 0)

def zeros (n : Nat) : List Char := List.replicate n '0'

/-- Written positionally from `1e-4` up to below `1e16`, otherwise with an exponent of at least
two digits and a sign. A whole number keeps one zero after its point. -/
def layout (digits : List Char) (last : Int) : List Char :=
  let n := digits.length
  let k : Int := last + n - 1
  if -4 ≤ k && k < 16 then
    if last ≥ 0 then digits ++ zeros last.toNat ++ ['.', '0']
    else if k ≥ 0 then digits.take (k.toNat + 1) ++ '.' :: digits.drop (k.toNat + 1)
    else '0' :: '.' :: zeros ((-k).toNat - 1) ++ digits
  else
    let expo := Nat.toDigits 10 k.natAbs
    let expo := if expo.length < 2 then '0' :: expo else expo
    digits.take 1 ++ (if n > 1 then '.' :: digits.drop 1 else [])
      ++ 'e' :: (if k < 0 then '-' else '+') :: expo

def strip : Nat → Nat → Int → Nat × Int
  | 0, d, u => (d, u)
  | fuel + 1, d, u => if d % 10 = 0 && d != 0 then strip fuel (d / 10) (u + 1) else (d, u)

def text (x : Binary64) : String :=
  if x.isNaN then "nan"
  else
    let sign : List Char := if x.negative then ['-'] else []
    if x.isInfinite then String.ofList (sign ++ ['i', 'n', 'f'])
    else if x.isZero then String.ofList (sign ++ ['0', '.', '0'])
    else
      let (d, u) := shortest x.significand x.scale
      let (d, u) := strip 20 d u
      String.ofList (sign ++ layout (Nat.toDigits 10 d) u)

def hex (x : Binary64) : String :=
  let d := Nat.toDigits 16 x.bits.toNat
  String.ofList (zeros (16 - d.length) ++ d)

end Binary64
end AlertRelay
