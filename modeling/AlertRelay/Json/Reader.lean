import AlertRelay.Value

/-! Reading JSON text. Numbers without a point and an exponent are integers of any size; a
key that occurs twice keeps its first place and its last value; two escapes that
form a surrogate pair are one character. -/
namespace AlertRelay.Json

def isSpace (c : Char) : Bool := c = ' ' || c = '\n' || c = '\t' || c = '\r'

def skip (s : List Char) : List Char := s.dropWhile isSpace

def hexValue? (c : Char) : Option Nat :=
  if '0' ≤ c && c ≤ '9' then some (c.toNat - 48)
  else if 'a' ≤ c && c ≤ 'f' then some (c.toNat - 87)
  else if 'A' ≤ c && c ≤ 'F' then some (c.toNat - 55)
  else none

def unit? (a b c d : Char) : Option Nat := do
  return (((← hexValue? a) * 16 + (← hexValue? b)) * 16 + (← hexValue? c)) * 16 + (← hexValue? d)

def simpleEscape? (c : Char) : Option Nat :=
  if c = '\x22' || c = '\\' || c = '/' then some c.toNat
  else if c = 'n' then some 10
  else if c = 'r' then some 13
  else if c = 't' then some 9
  else if c = 'f' then some 12
  else if c = 'b' then some 8
  else none

def points : List Char → Option (List Nat × List Char)
  | [] => none
  | '\x22' :: r => some ([], r)
  | '\\' :: 'u' :: a :: b :: c :: d :: r => do
    let u ← unit? a b c d
    let (cs, rest) ← points r
    return (u :: cs, rest)
  | '\\' :: e :: r => do
    let c ← simpleEscape? e
    let (cs, rest) ← points r
    return (c :: cs, rest)
  | c :: r => if c.toNat < 0x20 then none else do
    let (cs, rest) ← points r
    return (c.toNat :: cs, rest)

def joinPairs : List Nat → List Nat
  | [] => []
  | [u] => [u]
  | u :: v :: r =>
    if 0xD800 ≤ u && u < 0xDC00 && 0xDC00 ≤ v && v < 0xE000 then
      (0x10000 + (u - 0xD800) * 0x400 + (v - 0xDC00)) :: joinPairs r
    else u :: joinPairs (v :: r)

def string? (s : List Char) : Option (Scalar × List Char) :=
  (points s).map (fun p => (.text ⟨joinPairs p.1⟩, p.2))

def isDigit (c : Char) : Bool := '0' ≤ c && c ≤ '9'

def natOf (ds : List Char) : Nat := ds.foldl (fun n c => n * 10 + (c.toNat - 48)) 0

def exponent? : List Char → Option (Int × List Char)
  | e :: r =>
    if e = 'e' || e = 'E' then
      let (neg, r) := match r with
        | '-' :: r => (true, r)
        | '+' :: r => (false, r)
        | r => (false, r)
      let ds := r.takeWhile isDigit
      if ds.isEmpty then none
      else some ((if neg then -(natOf ds : Int) else natOf ds), r.dropWhile isDigit)
    else none
  | [] => none

def number? (neg : Bool) (s : List Char) : Option (Scalar × List Char) :=
  let whole := s.takeWhile isDigit
  let r := s.dropWhile isDigit
  if whole.isEmpty || (whole.length > 1 && whole.head? = some '0') then none
  else
    let (part, r) := match r with
      | '.' :: t => (t.takeWhile isDigit, if (t.takeWhile isDigit).isEmpty then r else t.dropWhile isDigit)
      | _ => ([], r)
    match exponent? r with
    | some (e, r) =>
      some (.float (.ofDecimal neg (natOf (whole ++ part)) (e - part.length)), r)
    | none =>
      if part.isEmpty then some (.int (if neg then -(natOf whole : Int) else natOf whole), r)
      else some (.float (.ofDecimal neg (natOf (whole ++ part)) (-(part.length : Int))), r)

def words : List (List Char × Scalar) :=
  [("null".toList, .null), ("true".toList, .bool true), ("false".toList, .bool false),
    ("NaN".toList, .float .nan), ("Infinity".toList, .float (.infinity false)),
    ("-Infinity".toList, .float (.infinity true))]

def plain? (s : List Char) : Option (Scalar × List Char) :=
  match words.find? (fun w => w.1.isPrefixOf s), s with
  | some (w, v), _ => some (v, s.drop w.length)
  | none, '-' :: r => number? true r
  | none, s => number? false s

mutual
/-- One value and what follows it; the first argument bounds the nesting and the members. -/
def value? : Nat → List Char → Option (Value × List Char)
  | 0, _ => none
  | fuel + 1, s => match skip s with
    | '\x22' :: r => (string? r).map (fun p => (.scalar p.1, p.2))
    | '[' :: r => match skip r with
      | ']' :: r => some (.list [], r)
      | r => (members? fuel r).map (fun p => (.list p.1, p.2))
    | '\x7b' :: r => match skip r with
      | '\x7d' :: r => some (.map [], r)
      | r => (entries? fuel r).map (fun p => (.map (Ordered.ofPairs p.1), p.2))
    | r => (plain? r).map (fun p => (.scalar p.1, p.2))
def members? : Nat → List Char → Option (List Value × List Char)
  | 0, _ => none
  | fuel + 1, s => do
    let (v, r) ← value? fuel s
    match skip r with
    | ',' :: r => do
      let (vs, r) ← members? fuel r
      return (v :: vs, r)
    | ']' :: r => return ([v], r)
    | _ => none
def entries? : Nat → List Char → Option (List (Scalar × Value) × List Char)
  | 0, _ => none
  | fuel + 1, s => match skip s with
    | '\x22' :: r => do
      let (k, r) ← string? r
      match skip r with
      | ':' :: r => do
        let (v, r) ← value? fuel r
        match skip r with
        | ',' :: r => do
          let (es, r) ← entries? fuel r
          return ((k, v) :: es, r)
        | '\x7d' :: r => return ([(k, v)], r)
        | _ => none
      | _ => none
    | _ => none
end

def parse? (s : String) : Option Value := do
  let cs := s.toList
  let (v, r) ← value? (2 * cs.length + 2) cs
  if (skip r).isEmpty then some v else none

end AlertRelay.Json
