import AlertRelay.Text

/-! UTF-8. Reading keeps every valid sequence and replaces each maximal invalid
part by one mark, or reports the first invalid part. A lead octet fixes how many
octets follow and the range of the next one; later ones are 80 to BF. -/
namespace AlertRelay.Utf8

def encodePoint (c : Nat) : List UInt8 :=
  if c < 0x80 then [UInt8.ofNat c]
  else if c < 0x800 then [UInt8.ofNat (0xC0 + c / 64), UInt8.ofNat (0x80 + c % 64)]
  else if c < 0x10000 then
    [UInt8.ofNat (0xE0 + c / 4096), UInt8.ofNat (0x80 + c / 64 % 64), UInt8.ofNat (0x80 + c % 64)]
  else
    [UInt8.ofNat (0xF0 + c / 262144), UInt8.ofNat (0x80 + c / 4096 % 64),
      UInt8.ofNat (0x80 + c / 64 % 64), UInt8.ofNat (0x80 + c % 64)]

def encode (t : Text) : List UInt8 := t.codes.flatMap encodePoint

/-- A lead octet: the bits it gives, how many octets follow, and the range of the next. -/
structure Lead where
  bits : Nat
  more : Nat
  low : Nat
  high : Nat

/-- No overlong form, no surrogate and nothing above 10FFFF has a lead. -/
def lead? (b : Nat) : Option Lead :=
  if b < 0xC2 then none
  else if b < 0xE0 then some ⟨b - 0xC0, 1, 0x80, 0xBF⟩
  else if b = 0xE0 then some ⟨0, 2, 0xA0, 0xBF⟩
  else if b = 0xED then some ⟨13, 2, 0x80, 0x9F⟩
  else if b < 0xF0 then some ⟨b - 0xE0, 2, 0x80, 0xBF⟩
  else if b = 0xF0 then some ⟨0, 3, 0x90, 0xBF⟩
  else if b < 0xF4 then some ⟨b - 0xF0, 3, 0x80, 0xBF⟩
  else if b = 0xF4 then some ⟨4, 3, 0x80, 0x8F⟩
  else none

inductive Cause
  | badStart
  | badContinuation
  | truncated
deriving DecidableEq

inductive Unit8
  | point (c : Nat)
  | invalid (cause : Cause)
deriving DecidableEq

/-- Reads the octets that follow a lead: the unit and how many of them belong to it. -/
def follow (bits : Nat) : Nat → Nat → Nat → List UInt8 → Unit8 × Nat
  | 0, _, _, _ => (.point bits, 0)
  | _ + 1, _, _, [] => (.invalid .truncated, 0)
  | more + 1, low, high, b :: r =>
    if low ≤ b.toNat && b.toNat ≤ high then
      let (u, n) := follow (bits * 64 + b.toNat % 64) more 0x80 0xBF r
      (u, n + 1)
    else (.invalid .badContinuation, 0)

def first (b : UInt8) (r : List UInt8) : Unit8 × Nat :=
  if b.toNat < 0x80 then (.point b.toNat, 0)
  else match lead? b.toNat with
    | none => (.invalid .badStart, 0)
    | some l => follow l.bits l.more l.low l.high r

def units : List UInt8 → List (Unit8 × Nat)
  | [] => []
  | b :: r =>
    let (u, n) := first b r
    (u, n + 1) :: units (r.drop n)
termination_by bs => bs.length
decreasing_by simp only [List.length_drop, List.length_cons]; omega

def Unit8.toPoint : Unit8 → Nat
  | .point c => c
  | .invalid _ => Text.mark

def decodeLossy (bs : List UInt8) : Text := ⟨(units bs).map (fun u => u.1.toPoint)⟩

structure Fault where
  cause : Cause
  start : Nat
  size : Nat
  octet : UInt8
deriving DecidableEq

def readUnits (bs : List UInt8) : Nat → List (Unit8 × Nat) → Except Fault (List Nat)
  | _, [] => .ok []
  | start, (.point c, n) :: r => do
    let cs ← readUnits bs (start + n) r
    return c :: cs
  | start, (.invalid cause, n) :: _ => .error ⟨cause, start, n, (bs.drop start).headD 0⟩

def decode (bs : List UInt8) : Except Fault Text := (readUnits bs 0 (units bs)).map Text.mk

def decode? (bs : List UInt8) : Option Text := (decode bs).toOption

end AlertRelay.Utf8
