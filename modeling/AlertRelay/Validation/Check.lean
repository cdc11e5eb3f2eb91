import AlertRelay.Validation
import AlertRelay.Text.Utf8

/-! The checks of single values. Text is taken from text, and from octets that are valid
UTF-8; a yes or no also from zero, one and the usual words; numbers also from text. -/
namespace AlertRelay.Check

def text : Value → Checked Text
  | .scalar (.text t) => .ok t
  | .scalar (.bytes bs) => match Utf8.decode? bs with
    | some t => .ok t
    | none => .fail .stringUnicode
  | _ => .fail .stringType

/-- Text that is kept secret. Nothing is told about what is no text. -/
def secret (v : Value) : Checked Text := (text v).mapError (fun _ => [⟨[], .stringType⟩])

def chars (t : Text) : List Char := t.codes.map Char.ofNat

def lower (cs : List Char) : String := String.ofList (cs.map Char.toLower)

def word? (t : Text) : Option Bool :=
  let w := lower (chars t)
  if ["1", "on", "t", "true", "y", "yes"].contains w then some true
  else if ["0", "off", "f", "false", "n", "no"].contains w then some false
  else none

def ofWord (t : Text) : Checked Bool :=
  match word? t with
  | some b => .ok b
  | none => .fail .boolParsing

def fits64 (n : Int) : Bool := -9223372036854775808 ≤ n && n < 9223372036854775808

def ofInteger (n : Int) : Checked Bool :=
  if n = 0 then .ok false
  else if n = 1 then .ok true
  else if fits64 n then .fail .boolParsing
  else .fail .boolType

/-- A number with a fraction, or one that 64 bits cannot hold strictly inside, is no yes or no. -/
def ofFloat (x : Binary64) : Checked Bool :=
  match x.toInt? with
  | some n => if n = -9223372036854775808 then .fail .boolType else ofInteger n
  | none => .fail .boolType

def bool : Value → Checked Bool
  | .scalar (.bool b) => .ok b
  | .scalar (.int n) => ofInteger n
  | .scalar (.float x) => ofFloat x
  | .scalar (.text t) => if t.isUnicode then ofWord t else .fail .stringUnicode
  | .scalar (.bytes bs) => match Utf8.decode? bs with
    | some t => ofWord t
    | none => .fail .boolParsing
  | _ => .fail .boolType

def sequence? : Value → Option (List Value)
  | .list xs => some xs
  | .tuple xs => some xs
  | .set xs => some (xs.map .scalar)
  | _ => none

def texts (flaw : Flaw) (v : Value) : Checked (List Text) :=
  match sequence? v with
  | some xs => .each text 0 xs
  | none => .fail flaw

def keyPlace : Scalar → Place
  | .text t => .key t.legible
  | .int n => if fits64 n then .index n else .key (toString n)
  | .bool b => .index b.toNat
  | s => .key s.quoted

def textEntries : List (Scalar × Value) → Checked (Fields Text)
  | [] => .ok []
  | (k, v) :: r =>
    let name := ((text (.scalar k)).within (.key "[key]")).within (keyPlace k)
    let value := (text v).within (keyPlace k)
    ((name.both value).both (textEntries r)).map (fun p => p.1 :: p.2)

def textMap : Value → Checked (Fields Text)
  | .map es => textEntries es
  | _ => .fail .mapType

def isSpace (c : Char) : Bool := Text.isBlank c.toNat

def trim (cs : List Char) : List Char :=
  ((cs.dropWhile isSpace).reverse.dropWhile isSpace).reverse

def isDigit (c : Char) : Bool := '0' ≤ c && c ≤ '9'

def natOf (ds : List Char) : Nat := ds.foldl (fun n c => n * 10 + (c.toNat - 48)) 0

def withoutUnderscores? (cs : List Char) : Option (List Char) :=
  let doubled := (cs.zip (cs.drop 1)).any (fun p => p.1 = '_' && p.2 = '_')
  if cs.head? = some '_' || cs.getLast? = some '_' || doubled then none
  else some (cs.filter (· != '_'))

def decimal? (neg : Bool) (cs : List Char) : Option Binary64 :=
  let whole := cs.takeWhile isDigit
  let r := cs.dropWhile isDigit
  let (part, r) := match r with
    | '.' :: t => (t.takeWhile isDigit, t.dropWhile isDigit)
    | _ => ([], r)
  if whole.isEmpty && part.isEmpty then none
  else
    let value (e : Int) := Binary64.ofDecimal neg (natOf (whole ++ part)) (e - part.length)
    match r with
    | [] => some (value 0)
    | e :: t =>
      let (down, ds) := match t with
        | '-' :: ds => (true, ds)
        | '+' :: ds => (false, ds)
        | ds => (false, ds)
      if (e = 'e' || e = 'E') && !ds.isEmpty && ds.all isDigit then
        some (value (if down then -(natOf ds : Int) else natOf ds))
      else none

def float? (cs : List Char) : Option Binary64 :=
  let (neg, r) := match cs with
    | '-' :: r => (true, r)
    | '+' :: r => (false, r)
    | r => (false, r)
  let w := lower r
  if w = "inf" || w = "infinity" then some (.infinity neg)
  else if w = "nan" then some .nan
  else decimal? neg r

/-- Blanks around the number are allowed only where no underscores stand in it. -/
def floatText (t : Text) : Checked Binary64 :=
  match (float? (trim (chars t))).orElse (fun _ => (withoutUnderscores? (chars t)).bind float?) with
  | some x => .ok x
  | none => .fail .floatParsing

def float : Value → Checked Binary64
  | .scalar (.float x) => .ok x
  | .scalar (.bool b) => .ok (Binary64.ofRatio false b.toNat 1)
  | .scalar (.int n) => match Binary64.ofInt? n with
    | some x => .ok x
    | none => .fail .floatType
  | .scalar (.text t) => if t.isUnicode then floatText t else .fail .stringUnicode
  | .scalar (.bytes bs) => match Utf8.decode? bs with
    | some t => floatText t
    | none => .fail .floatParsing
  | _ => .fail .floatType

/-- A whole number in its plain form: no sign but a minus, no zero before other digits, and at most
4300 characters. -/
def plainInteger? (cs : List Char) : Option Int :=
  let (neg, ds) := match cs with
    | '-' :: ds => (true, ds)
    | ds => (false, ds)
  if ds.isEmpty || !ds.all isDigit || (ds.head? = some '0' && ds.length > 1) || cs.length > 4300 then none
  else some (if neg then -(natOf ds : Int) else natOf ds)

/-- Leading zeros are dropped, with underscores among them, but the last one stays at the end and
before a point. -/
def withoutZeros? : List Char → Option (List Char)
  | '0' :: r =>
    let last := ((r.takeWhile (fun c => c = '0' || c = '_')).getLast?).getD '0'
    match r.dropWhile (fun c => c = '0' || c = '_') with
    | [] => some [last]
    | '.' :: t => some (last :: '.' :: t)
    | c :: t => if isDigit c || c = '-' then some (c :: t) else none
  | c :: r => if isDigit c then some (c :: r) else none
  | [] => none

def withoutFraction (cs : List Char) : List Char :=
  match cs.dropWhile (· != '.') with
  | _ :: c :: r => if (c :: r).all (· = '0') then cs.takeWhile (· != '.') else cs
  | _ => cs

def tidied? (cs : List Char) : Option (List Char) := do
  let cs ← match trim cs with
    | '+' :: '-' :: _ => none
    | '+' :: r => withoutZeros? r
    | '-' :: r => (withoutZeros? r).map ('-' :: ·)
    | r => withoutZeros? r
  withoutUnderscores? (withoutFraction cs)

def integer? (t : Text) : Option Int :=
  (plainInteger? (chars t)).orElse (fun _ => (tidied? (chars t)).bind plainInteger?)

end AlertRelay.Check
