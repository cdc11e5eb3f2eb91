/-! Text as a sequence of code points. Surrogates count as code points here and may stand alone,
because escapes can write them; a string is a text without any. -/
namespace AlertRelay

structure Text where
  codes : List Nat
deriving DecidableEq

def isSurrogate (c : Nat) : Bool := 0xD800 ≤ c && c < 0xE000

namespace Text

def ofString (s : String) : Text := ⟨s.toList.map Char.toNat⟩

instance ofStringCoe : Coe String Text := ⟨ofString⟩

def append (s t : Text) : Text := ⟨s.codes ++ t.codes⟩

instance appendText : Append Text := ⟨append⟩

def empty : Text := ⟨[]⟩

def isEmpty (t : Text) : Bool := t.codes.isEmpty

def length (t : Text) : Nat := t.codes.length

def take (n : Nat) (t : Text) : Text := ⟨t.codes.take n⟩

def startsWith (t start : Text) : Bool := start.codes.isPrefixOf t.codes

def codesUpTo : List Nat → List Nat → Bool
  | [], _ => true
  | _ :: _, [] => false
  | a :: s, b :: t => a < b || (a == b && codesUpTo s t)

def isUpTo (s t : Text) : Bool := codesUpTo s.codes t.codes

def join (separator : Text) : List Text → Text
  | [] => empty
  | [t] => t
  | t :: r => t ++ separator ++ join separator r

def isUnicode (t : Text) : Bool := !t.codes.any isSurrogate

def mark : Nat := 0xFFFD

/-- The string nearest to a text: a surrogate takes three octets, each of them shown by a mark. -/
def legible (t : Text) : Text :=
  ⟨t.codes.flatMap (fun c => if isSurrogate c then [mark, mark, mark] else [c])⟩

def toString (t : Text) : String := String.ofList (t.legible.codes.map Char.ofNat)

/-- The zeros of all scripts, as Unicode 14 lists them; each script has its ten digits in a row. -/
def digitZeros : List Nat :=
  [48, 1632, 1776, 1984, 2406, 2534, 2662, 2790, 2918, 3046, 3174, 3302, 3430, 3558, 3664, 3792,
   3872, 4160, 4240, 6112, 6160, 6470, 6608, 6784, 6800, 6992, 7088, 7232, 7248, 42528, 43216,
   43264, 43472, 43504, 43600, 44016, 65296, 66720, 68912, 69734, 69872, 69942, 70096, 70384,
   70736, 70864, 71248, 71360, 71472, 71904, 72016, 72784, 73040, 73120, 92768, 92864, 93008,
   120782, 120792, 120802, 120812, 120822, 123200, 123632, 125264, 130032]

def digitValue? (c : Nat) : Option Nat :=
  (digitZeros.find? (fun z => z ≤ c && c < z + 10)).map (fun z => c - z)

/-- White space, the next-line control included and the information separators not. -/
def isBlank (c : Nat) : Bool :=
  (9 ≤ c && c ≤ 13) || c == 32 || c == 0x85 || c == 0xa0 || c == 0x1680
    || (0x2000 ≤ c && c ≤ 0x200a) || c == 0x2028 || c == 0x2029 || c == 0x202f || c == 0x205f
    || c == 0x3000

def trim (cs : List Nat) : List Nat :=
  ((cs.dropWhile isBlank).reverse.dropWhile isBlank).reverse

@[simp] theorem codes_append (s t : Text) : (s ++ t).codes = s.codes ++ t.codes := rfl

theorem append_assoc (r s t : Text) : r ++ s ++ t = r ++ (s ++ t) :=
  congrArg Text.mk (List.append_assoc r.codes s.codes t.codes)

theorem legible_of_isUnicode (t : Text) (h : t.isUnicode = true) : t.legible = t := by
  obtain ⟨cs⟩ := t
  simp only [isUnicode, Bool.not_eq_true', List.any_eq_false] at h
  refine congrArg Text.mk ?_
  induction cs with
  | nil => rfl
  | cons c r ih =>
    have hc : isSurrogate c = false := by simpa using h c (by simp)
    simp [hc, ih (fun d hd => h d (by simp [hd]))]

theorem isUnicode_ofString (s : String) : (ofString s).isUnicode = true := by
  simp only [isUnicode, ofString, Bool.not_eq_true', List.any_eq_false, List.mem_map]
  rintro c ⟨ch, _, rfl⟩
  have h := ch.valid
  simp only [isSurrogate, Char.toNat, UInt32.isValidChar, Nat.isValidChar] at *
  simp only [Bool.and_eq_true, decide_eq_true_eq]
  omega

end Text
end AlertRelay
