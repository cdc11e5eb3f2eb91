import AlertRelay.Value

/-! The JSON text of a value: a comma and a space between members, a colon and a space
after a key, and only printable ASCII, everything else by its UTF-16 units. -/
namespace AlertRelay.Json

def unitEscape (u : Nat) : List Char := '\\' :: 'u' :: Text.hexDigits 4 u

def escapePoint (c : Nat) : List Char :=
  if c = 0x22 then ['\\', '\x22']
  else if c = 0x5c then ['\\', '\\']
  else if c = 10 then ['\\', 'n']
  else if c = 13 then ['\\', 'r']
  else if c = 9 then ['\\', 't']
  else if c = 12 then ['\\', 'f']
  else if c = 8 then ['\\', 'b']
  else if 0x20 ≤ c && c ≤ 0x7e then [Char.ofNat c]
  else if c < 0x10000 then unitEscape c
  else unitEscape (0xD800 + (c - 0x10000) / 0x400) ++ unitEscape (0xDC00 + (c - 0x10000) % 0x400)

def writeCodes (cs : List Nat) : List Char := '\x22' :: cs.flatMap escapePoint ++ ['\x22']

def writeText (t : Text) : List Char := writeCodes t.codes

def numberText (x : Binary64) : String :=
  if x.isNaN then "NaN"
  else if x.isInfinite then (if x.negative then "-Infinity" else "Infinity")
  else x.text

def scalarText : Scalar → Text
  | .null => "null"
  | .bool b => if b then "true" else "false"
  | .int n => toString n
  | .float x => numberText x
  | .text t => t
  | s => s.quoted

/-- Text is quoted; a scalar that JSON has no form for is written as quoted text. -/
def writeScalar : Scalar → List Char
  | .null => ['n', 'u', 'l', 'l']
  | .bool b => if b then ['t', 'r', 'u', 'e'] else ['f', 'a', 'l', 's', 'e']
  | .int n => (toString n).toList
  | .float x => (numberText x).toList
  | .text t => writeText t
  | s => writeText s.quoted

def writeKey (s : Scalar) : List Char := writeText (scalarText s)

mutual
def write : Value → List Char
  | .scalar s => writeScalar s
  | .list [] => ['[', ']']
  | .list (x :: r) => '[' :: write x ++ writeMore r
  | .tuple [] => ['[', ']']
  | .tuple (x :: r) => '[' :: write x ++ writeMore r
  | .set [] => ['[', ']']
  | .set (x :: r) => '[' :: writeScalar x ++ r.flatMap (fun s => ',' :: ' ' :: writeScalar s) ++ [']']
  | .map [] => ['\x7b', '\x7d']
  | .map (e :: r) => '\x7b' :: writeKey e.1 ++ ':' :: ' ' :: write e.2 ++ writeMoreEntries r
def writeMore : List Value → List Char
  | [] => [']']
  | x :: r => ',' :: ' ' :: write x ++ writeMore r
def writeMoreEntries : List (Scalar × Value) → List Char
  | [] => ['\x7d']
  | e :: r => ',' :: ' ' :: writeKey e.1 ++ ':' :: ' ' :: write e.2 ++ writeMoreEntries r
end

def render (v : Value) : String := String.ofList (write v)

end AlertRelay.Json
