import AlertRelay.Ordered
import AlertRelay.Binary64
import AlertRelay.Text.Quoted

/-! Data as it arrives, before any check: the scalars of settings files and of JSON, and
the sequences and maps built from them. -/
namespace AlertRelay

structure Date where
  year : Nat
  month : Nat
  day : Nat
deriving DecidableEq

/-- A point in time to the microsecond. With an offset it is kept in universal time. -/
structure Moment where
  day : Int
  micros : Nat
  zoned : Bool
deriving DecidableEq

inductive Scalar
  | null
  | bool (b : Bool)
  | int (n : Int)
  | float (x : Binary64)
  | text (t : Text)
  | bytes (octets : List UInt8)
  | date (d : Date)
  | moment (m : Moment)
deriving DecidableEq

/-- Maps and sets have scalar keys; the entries are in order of first insertion. -/
inductive Value
  | scalar (s : Scalar)
  | list (xs : List Value)
  | tuple (xs : List Value)
  | set (xs : List Scalar)
  | map (es : List (Scalar × Value))

abbrev Fields (α : Type) := List (Text × α)

namespace Fields

variable {α : Type}

abbrev get? (name : Text) (fs : Fields α) : Option α := Ordered.get? name fs
abbrev has (name : Text) (fs : Fields α) : Bool := Ordered.has name fs
abbrev put (name : Text) (v : α) (fs : Fields α) : Fields α := Ordered.put name v fs
abbrev erase (name : Text) (fs : Fields α) : Fields α := Ordered.erase name fs

end Fields

/-- Equality of keys: by value, so that `true`, `1` and `1.0` are one key. -/
def Scalar.sameKey : Scalar → Scalar → Bool
  | .float x, .float y => x.numEq y
  | .float x, .int n => x.toInt? == some n
  | .int n, .float x => x.toInt? == some n
  | .float x, .bool b => x.toInt? == some b.toNat
  | .bool b, .float x => x.toInt? == some b.toNat
  | .bool b, .int n => n == b.toNat
  | .int n, .bool b => n == b.toNat
  | a, b => a == b

instance keyBEq : BEq Scalar := ⟨Scalar.sameKey⟩

namespace Value

abbrev null : Value := .scalar .null
abbrev bool (b : Bool) : Value := .scalar (.bool b)
abbrev int (n : Int) : Value := .scalar (.int n)
abbrev float (x : Binary64) : Value := .scalar (.float x)
abbrev text (t : Text) : Value := .scalar (.text t)

def texts (xs : List Text) : Value := .list (xs.map Value.text)

def ofFields (fs : Fields Value) : Value := .map (fs.map (fun p => (Scalar.text p.1, p.2)))

def typeName : Value → String
  | .scalar .null => "NoneType"
  | .scalar (.bool _) => "bool"
  | .scalar (.int _) => "int"
  | .scalar (.float _) => "float"
  | .scalar (.text _) => "str"
  | .scalar (.bytes _) => "bytes"
  | .scalar (.date _) => "date"
  | .scalar (.moment _) => "datetime"
  | .list _ => "list"
  | .tuple _ => "tuple"
  | .set _ => "set"
  | .map _ => "dict"

/-- Null, false, zero and whatever is empty count as not given. -/
def isTruthy : Value → Bool
  | .scalar .null => false
  | .scalar (.bool b) => b
  | .scalar (.int n) => n != 0
  | .scalar (.float x) => !x.isZero
  | .scalar (.text t) => !t.isEmpty
  | .scalar (.bytes bs) => !bs.isEmpty
  | .scalar (.date _) => true
  | .scalar (.moment _) => true
  | .list xs => !xs.isEmpty
  | .tuple xs => !xs.isEmpty
  | .set xs => !xs.isEmpty
  | .map es => !es.isEmpty

def members? : Value → Option (List Value)
  | .scalar (.text t) => some (t.codes.map (fun c => .text ⟨[c]⟩))
  | .scalar (.bytes bs) => some (bs.map (fun b => .int b.toNat))
  | .list xs => some xs
  | .tuple xs => some xs
  | .set xs => some (xs.map .scalar)
  | .map es => some (es.map (fun e => .scalar e.1))
  | .scalar _ => none

def size? (v : Value) : Option Nat := v.members?.map List.length

end Value

def Date.ordinal (d : Date) : Int :=
  let y : Int := d.year - 1
  let leap := d.year % 4 = 0 && (d.year % 100 != 0 || d.year % 400 = 0)
  let lengths : List Nat := [31, if leap then 29 else 28, 31, 30, 31, 30, 31, 31, 30, 31, 30, 31]
  y * 365 + y / 4 - y / 100 + y / 400 + ((lengths.take (d.month - 1)).foldl (· + ·) 0 : Nat) + d.day

namespace Scalar

def pad (n : Nat) (width : Nat) : List Char :=
  let d := Nat.toDigits 10 n
  List.replicate (width - d.length) '0' ++ d

def quoted : Scalar → String
  | .null => "None"
  | .bool true => "True"
  | .bool false => "False"
  | .int n => toString n
  | .float x => x.text
  | .text t => t.quote
  | .bytes bs => Text.quoteOctets bs
  | .date d => String.ofList (pad d.year 4 ++ '-' :: pad d.month 2 ++ '-' :: pad d.day 2)
  | .moment m => toString m.day ++ "d" ++ toString m.micros ++ "us"

end Scalar

mutual
def Value.quoted : Value → String
  | .scalar s => s.quoted
  | .list xs => "[" ++ ", ".intercalate (Value.quotedAll xs) ++ "]"
  | .tuple [x] => "(" ++ Value.quoted x ++ ",)"
  | .tuple xs => "(" ++ ", ".intercalate (Value.quotedAll xs) ++ ")"
  | .set [] => "set()"
  | .set xs => "\x7b" ++ ", ".intercalate (xs.map Scalar.quoted) ++ "\x7d"
  | .map es => "\x7b" ++ ", ".intercalate (Value.quotedEntries es) ++ "\x7d"
def Value.quotedAll : List Value → List String
  | [] => []
  | x :: r => Value.quoted x :: Value.quotedAll r
def Value.quotedEntries : List (Scalar × Value) → List String
  | [] => []
  | e :: r => (e.1.quoted ++ ": " ++ Value.quoted e.2) :: Value.quotedEntries r
end

def Value.written : Value → Text
  | .scalar (.text t) => t
  | v => v.quoted

end AlertRelay
