import AlertRelay.Text.Base64
import AlertRelay.Text.Lower
import AlertRelay.Text.Utf8
import AlertRelay.Value
import AlertRelay.Yaml.Error
import AlertRelay.Yaml.Tag

/-! What a scalar stands for under its tag: numbers in several bases and by sixties, words for
truth values, dates, and octets in base 64. Numbers may have digits of any script and
blanks around them; underscores are ignored. -/
namespace AlertRelay.Yaml.Convert

def fail {α : Type} (m : Misfit) : Except Error α := .error (.misfit m)

def chars (text : List Nat) : List Char := text.map Char.ofNat

def without_ (text : List Nat) : List Nat := text.filter (· != 0x5f)

def lower (text : List Nat) : List Nat := (Text.lower ⟨text⟩).codes

def digit? (c : Nat) : Option Nat :=
  match Text.digitValue? c with
  | some d => some d
  | none =>
    if 97 ≤ c && c ≤ 102 then some (c - 87) else if 65 ≤ c && c ≤ 70 then some (c - 55) else none

def signed (text : List Nat) : Bool × List Nat :=
  match text with
  | 0x2d :: r => (true, r)
  | 0x2b :: r => (false, r)
  | r => (false, r)

def isBaseMark (base c : Nat) : Bool :=
  (base = 2 && (c = 0x62 || c = 0x42)) || (base = 8 && (c = 0x6f || c = 0x4f))
    || (base = 16 && (c = 0x78 || c = 0x58))

def digits? (base : Nat) (text : List Nat) : Option (List Nat) :=
  let body := match text with
    | 0x30 :: m :: r => if isBaseMark base m then r else text
    | _ => text
  if body.isEmpty then none
  else body.mapM (fun c => (digit? c).bind (fun d => if d < base then some d else none))

/-- A whole number in a base. Decimal ones have at most 4300 digits, which are counted before what
follows them is looked at. -/
def whole (base : Nat) (text : List Nat) : Except Error Int :=
  let (neg, body) := signed (Text.trim text)
  let size := (body.takeWhile (fun c => (Text.digitValue? c).isSome)).length
  if base = 10 && size > 4300 then fail (.wholeSize size)
  else match digits? base body with
    | none => fail (.whole base text)
    | some ds =>
      let n : Nat := ds.foldl (fun n d => n * base + d) 0
      .ok (if neg then -(n : Int) else n)

def parts (text : List Nat) : List (List Nat) :=
  text.foldr (fun c acc => match acc with
    | p :: r => if c = 0x3a then [] :: p :: r else (c :: p) :: r
    | [] => [[c]]) [[]]

def hasColon (text : List Nat) : Bool := text.contains 0x3a

def based (text : List Nat) : Nat × List Nat :=
  match text with
  | 0x30 :: 0x62 :: r => (2, r)
  | 0x30 :: 0x78 :: r => (16, r)
  | 0x30 :: _ => (8, text)
  | _ => (10, text)

def unsigned (text : List Nat) : Except Error (Bool × List Nat) :=
  if text.isEmpty then fail .empty else .ok (signed text)

def toInt (text : List Nat) : Except Error Int := do
  let (neg, body) ← unsigned (without_ text)
  let n ←
    if body = [0x30] then Except.ok (0 : Int)
    else if body.isEmpty then fail .empty
    else if (based body).1 != 10 then whole (based body).1 (based body).2
    else if hasColon body then do
      let ps ← (parts body).mapM (whole 10)
      Except.ok (ps.foldl (fun n p => n * 60 + p) 0)
    else whole 10 body
  return if neg then -n else n

def isDecimalDigit (c : Nat) : Bool := (Text.digitValue? c).isSome

def natOf (ds : List Nat) : Nat :=
  ds.foldl (fun n c => n * 10 + (Text.digitValue? c).getD 0) 0

def decimal? (neg : Bool) (text : List Nat) : Option Binary64 :=
  let ds := text.takeWhile isDecimalDigit
  let r := text.dropWhile isDecimalDigit
  let (part, r) := match r with
    | 0x2e :: t => (t.takeWhile isDecimalDigit, t.dropWhile isDecimalDigit)
    | _ => ([], r)
  if ds.isEmpty && part.isEmpty then none
  else
    let value (e : Int) := Binary64.ofDecimal neg (natOf (ds ++ part)) (e - part.length)
    match r with
    | [] => some (value 0)
    | e :: t =>
      let (down, es) := signed t
      if (e = 0x65 || e = 0x45) && !es.isEmpty && es.all isDecimalDigit then
        some (value (if down then -(natOf es : Int) else natOf es))
      else none

def number (text : List Nat) : Except Error Binary64 :=
  let (neg, body) := signed (Text.trim text)
  let w := String.ofList (chars (lower body))
  if w = "inf" || w = "infinity" then .ok (.infinity neg)
  else if w = "nan" then .ok .nan
  else match decimal? neg body with
    | some x => .ok x
    | none => fail (.number text)

/-- The sum of the parts, each weighed by a power of sixty, from the last one on. -/
def weigh : Binary64 → Nat → List Binary64 → Except Error Binary64
  | sum, _, [] => .ok sum
  | sum, base, x :: r => match Binary64.ofInt? base with
    | none => fail .numberSize
    | some b => weigh (sum.add (x.mul b)) (base * 60) r

def toFloat (text : List Nat) : Except Error Binary64 := do
  let (neg, body) ← unsigned (lower (without_ text))
  let w := String.ofList (chars body)
  let x ←
    if w = ".inf" then Except.ok (Binary64.infinity false)
    else if w = ".nan" then .ok .nan
    else if hasColon body then do
      let ps ← (parts body).mapM number
      weigh (.zero false) 1 ps.reverse
    else number body
  return if neg then x.neg else x

def isNotANumber (text : List Nat) : Bool :=
  match unsigned (lower (without_ text)) with
  | .ok (_, body) => String.ofList (chars body) = ".nan"
  | .error _ => false

def toBool (text : List Nat) : Except Error Bool :=
  let w := String.ofList (chars (lower text))
  if ["yes", "true", "on"].contains w then .ok true
  else if ["no", "false", "off"].contains w then .ok false
  else fail (.truth (lower text))

def toBytes (text : List Nat) : Except Error (List UInt8) :=
  if text.any (· ≥ 128) then .error .content
  else match Base64.decode? (chars text) with
    | some bs => .ok bs
    | none => .error .content

def nat (ds : List Char) : Nat := ds.foldl (fun n d => n * 10 + (d.toNat - 48)) 0

def isLeap (y : Nat) : Bool := y % 4 = 0 && (y % 100 != 0 || y % 400 = 0)

def monthLength (y m : Nat) : Nat :=
  if m = 2 then (if isLeap y then 29 else 28)
  else if [4, 6, 9, 11].contains m then 30 else 31

def date (d : Plain.Stamp) : Except Error Date :=
  let (y, m, n) := (nat d.year, nat d.month, nat d.day)
  if y = 0 then fail (.year y)
  else if m = 0 || m > 12 then fail .month
  else if n = 0 || n > monthLength y m then fail .day
  else .ok ⟨y, m, n⟩

def micros (fraction : List Char) : Nat :=
  nat ((fraction.take 6) ++ List.replicate (6 - fraction.length) '0')

def offset : Option (Char × List Char × List Char) → Except Error Int
  | none => .ok 0
  | some (sign, h, m) =>
    let minutes : Int := (nat h * 60 + nat m : Nat)
    let minutes := if sign = '-' then -minutes else minutes
    if minutes.natAbs < 1440 then .ok minutes
    else fail (.offset (minutes.fdiv 1440) (minutes.fmod 1440 * 60))

def toTime (text : List Nat) : Except Error Scalar := do
  let cs := chars text
  let cs := match cs.reverse with
    | '\n' :: r => r.reverse
    | _ => cs
  match Plain.stamp? cs with
  | none => fail .timestamp
  | some d => match d.clock with
    | none => return .date (← date d)
    | some (h, m, s, f) =>
      let minutes ← offset d.offset
      let day ← date d
      let (h, m, s) := (nat h, nat m, nat s)
      if h > 23 then fail .hour
      else if m > 59 then fail .minute
      else if s > 59 then fail .second
      else
        let total : Int := (((h * 60 + m : Nat) : Int) - minutes) * 60000000 + (s * 1000000 + micros f : Nat)
        return .moment ⟨day.ordinal + total.fdiv 86400000000, (total.fmod 86400000000).toNat, d.zoned⟩

end AlertRelay.Yaml.Convert
