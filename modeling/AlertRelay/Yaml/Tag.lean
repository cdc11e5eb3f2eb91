/-! Tags, and the ones that plain scalars get from their form. Words for truth values and
null, whole numbers in several bases, numbers with a point, dates, and the two marks
for merging and for a default value; anything else is a string. -/
namespace AlertRelay.Yaml

def standardTag (name : String) : String := "tag:yaml.org,2002:" ++ name

namespace Plain

def isDigit (c : Char) : Bool := '0' ≤ c && c ≤ '9'
def isDigitOr_ (c : Char) : Bool := isDigit c || c = '_'

def unsigned : List Char → List Char
  | '+' :: r => r
  | '-' :: r => r
  | cs => cs

def isTruth (cs : List Char) : Bool :=
  ["yes", "Yes", "YES", "no", "No", "NO", "true", "True", "TRUE", "false", "False", "FALSE", "on",
    "On", "ON", "off", "Off", "OFF"].contains (String.ofList cs)

def isNull (cs : List Char) : Bool := ["~", "null", "Null", "NULL", ""].contains (String.ofList cs)

def sixties : Nat → List Char → Option (List Char)
  | 0, _ => none
  | fuel + 1, cs => match cs with
    | ':' :: a :: b :: r =>
      if '0' ≤ a && a ≤ '5' && isDigit b then
        (if r.head? = some ':' then sixties fuel r else some r)
      else if isDigit a then
        (if b = ':' then sixties fuel (b :: r) else some (b :: r))
      else none
    | [':', a] => if isDigit a then some [] else none
    | _ => none

def sexagesimal (leading : Char → Bool) (cs : List Char) : Option (List Char) :=
  match cs with
  | c :: r => if leading c then sixties (r.length + 1) (r.dropWhile isDigitOr_) else none
  | [] => none

def isWhole (cs : List Char) : Bool :=
  match unsigned cs with
  | [] => false
  | ['0'] => true
  | '0' :: 'b' :: r => !r.isEmpty && r.all (fun c => c = '0' || c = '1' || c = '_')
  | '0' :: 'x' :: r =>
    !r.isEmpty && r.all (fun c => isDigitOr_ c || ('a' ≤ c && c ≤ 'f') || ('A' ≤ c && c ≤ 'F'))
  | '0' :: r => r.all (fun c => ('0' ≤ c && c ≤ '7') || c = '_')
  | c :: r =>
    isDigit c && (r.all isDigitOr_ || sexagesimal (fun c => isDigit c && c != '0') (c :: r) == some [])

def isExponent : List Char → Bool
  | [] => true
  | e :: s :: r => (e = 'e' || e = 'E') && (s = '+' || s = '-') && !r.isEmpty && r.all isDigit
  | _ => false

def isNumber (cs : List Char) : Bool :=
  let u := unsigned cs
  let word (ws : List String) (cs : List Char) : Bool := ws.contains (String.ofList cs)
  let pointed := match u with
    | c :: r => isDigit c && (match r.dropWhile isDigitOr_ with
      | '.' :: t => isExponent (t.dropWhile isDigitOr_)
      | _ => false)
    | [] => false
  let bare := match cs with
    | '.' :: c :: r => isDigit c && isExponent (r.dropWhile isDigitOr_)
    | _ => false
  let sixty := match sexagesimal isDigit u with
    | some ('.' :: r) => r.all isDigitOr_
    | _ => false
  pointed || bare || sixty || word [".inf", ".Inf", ".INF"] u || word [".nan", ".NaN", ".NAN"] cs

def oneOrTwo : List Char → Option (List Char × List Char)
  | a :: b :: r =>
    if isDigit a && isDigit b then some ([a, b], r)
    else if isDigit a then some ([a], b :: r) else none
  | [a] => if isDigit a then some ([a], []) else none
  | [] => none

def markedTwo (mark : Char) : List Char → Option (List Char × List Char)
  | m :: a :: b :: r => if m = mark && isDigit a && isDigit b then some ([a, b], r) else none
  | _ => none

structure Stamp where
  year : List Char
  month : List Char
  day : List Char
  clock : Option (List Char × List Char × List Char × List Char)
  zoned : Bool
  offset : Option (Char × List Char × List Char)

def offset? (cs : List Char) : Option (Bool × Option (Char × List Char × List Char)) :=
  if cs.isEmpty then some (false, none)
  else match cs.dropWhile (fun c => c = ' ' || c = '\t') with
    | ['Z'] => some (true, none)
    | s :: r =>
      if s = '+' || s = '-' then match oneOrTwo r with
        | some (h, []) => some (true, some (s, h, []))
        | some (h, r) => match markedTwo ':' r with
          | some (m, []) => some (true, some (s, h, m))
          | _ => none
        | none => none
      else none
    | [] => none

def clock? (d : Stamp) (cs : List Char) : Option Stamp := do
  let (h, r) ← oneOrTwo cs
  let (m, r) ← markedTwo ':' r
  let (s, r) ← markedTwo ':' r
  let (f, r) := match r with
    | '.' :: t => (t.takeWhile isDigit, t.dropWhile isDigit)
    | r => ([], r)
  let (zoned, offset) ← offset? r
  return { d with clock := some (h, m, s, f), zoned, offset }

def stamp? (cs : List Char) : Option Stamp := do
  let year := cs.take 4
  if year.length != 4 || !year.all isDigit then none
  let '-' :: r := cs.drop 4 | none
  let (month, r) ← oneOrTwo r
  let '-' :: r := r | none
  let (day, r) ← oneOrTwo r
  let d : Stamp := ⟨year, month, day, none, false, none⟩
  match r with
  | [] => some d
  | c :: t =>
    if c = 'T' || c = 't' then clock? d t
    else if c = ' ' || c = '\t' then clock? d (t.dropWhile (fun c => c = ' ' || c = '\t'))
    else none

/-- A date alone is recognised only with two digits for the month and two for the day. -/
def isStamp (cs : List Char) : Bool :=
  match stamp? cs with
  | some d => d.clock.isSome || (d.month.length = 2 && d.day.length = 2)
  | none => false

def tagOf (cs : List Char) : String :=
  standardTag (
    if isTruth cs then "bool"
    else if isNumber cs then "float"
    else if isWhole cs then "int"
    else if cs = ['<', '<'] then "merge"
    else if isNull cs then "null"
    else if isStamp cs then "timestamp"
    else if cs = ['='] then "value"
    else if cs = ['!'] || cs = ['&'] || cs = ['*'] then "yaml"
    else "str")

/-- A last line feed does not count, unless there is nothing else. -/
def tag (cs : List Char) : String :=
  match cs.reverse with
  | '\n' :: c :: r => tagOf (c :: r).reverse
  | _ => tagOf cs

end Plain
end AlertRelay.Yaml
