/-! Base64 as it is read leniently: characters outside the alphabet are skipped, a
padding that completes a group ends the text, and an incomplete group is refused. -/
namespace AlertRelay.Base64

def digit? (c : Char) : Option Nat :=
  if 'A' ≤ c && c ≤ 'Z' then some (c.toNat - 65)
  else if 'a' ≤ c && c ≤ 'z' then some (c.toNat - 71)
  else if '0' ≤ c && c ≤ '9' then some (c.toNat + 4)
  else if c = '+' then some 62
  else if c = '/' then some 63
  else none

/-- Reads on with `place` digits of the current group seen, the bits left over from the last,
and the padding signs seen since it. -/
def decodeFrom (place : Nat) (left : Nat) (pads : Nat) : List Char → Option (List UInt8)
  | [] => if place = 0 then some [] else none
  | c :: r =>
    if c = '=' then
      if place ≥ 2 && place + (pads + 1) ≥ 4 then some []
      else decodeFrom place left (pads + 1) r
    else match digit? c with
      | none => decodeFrom place left pads r
      | some d =>
        match place with
        | 0 => decodeFrom 1 d 0 r
        | 1 => (decodeFrom 2 (d % 16) 0 r).map (UInt8.ofNat (left * 4 + d / 16) :: ·)
        | 2 => (decodeFrom 3 (d % 4) 0 r).map (UInt8.ofNat (left * 16 + d / 4) :: ·)
        | _ => (decodeFrom 0 0 0 r).map (UInt8.ofNat (left * 64 + d) :: ·)

def decode? (cs : List Char) : Option (List UInt8) := decodeFrom 0 0 0 cs

end AlertRelay.Base64
