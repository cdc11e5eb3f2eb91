import AlertRelay.Binary64
import AlertRelay.Text.Utf8

/-! Octets read as text in blocks of characters. The octets are taken in chunks and decoded as far as
they go, so an invalid part is known by its place in its chunk, and only when that chunk is
taken. Line ends of any kind become line feeds. -/
namespace AlertRelay.Blocks

def blockSize : Nat := 4096

def chunkSize : Nat := 8192

/-- What is left to read: the octets, those taken that wait for more, whether a carriage return
waits, the sizes of the last chunk in octets and characters, and the characters not yet given
out. -/
structure Reader where
  octets : List UInt8
  pending : List UInt8
  returned : Bool
  taken : Nat × Nat
  ready : List Nat

def start (octets : List UInt8) : Reader := ⟨octets, [], false, (0, 0), []⟩

/-- Whether an invalid part is at the end and could be the start of a longer sequence, that of a
surrogate included. -/
def isIncomplete (cause : Utf8.Cause) (octets : List UInt8) : Bool :=
  cause = .truncated || (match octets with
    | [a, b] => a = 0xED && 0xA0 ≤ b && b ≤ 0xBF
    | _ => false)

def decodeUnits (isLast : Bool) : Nat → List UInt8 → List (Utf8.Unit8 × Nat) →
    Except Utf8.Fault (List Nat × List UInt8)
  | _, _, [] => .ok ([], [])
  | at_, octets, (.point c, n) :: r =>
    (decodeUnits isLast (at_ + n) (octets.drop n) r).map (fun p => (c :: p.1, p.2))
  | at_, octets, (.invalid cause, n) :: _ =>
    if !isLast && isIncomplete cause octets then .ok ([], octets)
    else .error ⟨cause, at_, n, octets.headD 0⟩

def withLineFeeds : List Nat → List Nat
  | [] => []
  | 13 :: 10 :: r => 10 :: withLineFeeds r
  | 13 :: r => 10 :: withLineFeeds r
  | c :: r => c :: withLineFeeds r

def feedLines (isLast returned : Bool) (cs : List Nat) : List Nat × Bool :=
  let joined := returned && (isLast || !cs.isEmpty)
  let cs := if joined then 13 :: cs else cs
  if !isLast && cs.getLast? = some 13 then (withLineFeeds cs.dropLast, true)
  else (withLineFeeds cs, returned && !joined)

/-- How many octets to take for a number of characters: as many as the last chunk needed for that
many, and never less than a chunk. -/
def chunkFor (taken : Nat × Nat) (characters : Nat) : Nat :=
  if taken.2 = 0 || taken.1 ≤ taken.2 then max chunkSize characters
  else
    let ratio := Binary64.ofRatio false taken.1 taken.2
    let (n, d) := (ratio.mul (Binary64.ofRatio false characters 1)).toFraction
    max chunkSize (n.toNat / d)

def takeChunk (r : Reader) (characters : Nat) : Except Utf8.Fault (Reader × Bool) := do
  let size := chunkFor r.taken characters
  let chunk := r.octets.take size
  let octets := r.pending ++ chunk
  let (cs, pending) ← decodeUnits chunk.isEmpty 0 octets (Utf8.units octets)
  let (cs, returned) := feedLines chunk.isEmpty r.returned cs
  return (⟨r.octets.drop size, pending, returned, (chunk.length, cs.length), r.ready ++ cs⟩,
    !chunk.isEmpty || !cs.isEmpty)

def fill : Nat → Reader → Except Utf8.Fault Reader
  | 0, r => .ok r
  | fuel + 1, r =>
    if r.ready.length ≥ blockSize then .ok r
    else do
      let (r, more) ← takeChunk r (blockSize - r.ready.length)
      if more then fill fuel r else return r

def blocks : Nat → Reader → List (List Nat) × Option Utf8.Fault
  | 0, _ => ([], none)
  | fuel + 1, r => match fill (r.octets.length + 3) r with
    | .error f => ([], some f)
    | .ok r =>
      if r.ready.isEmpty then ([], none)
      else
        let (bs, fault) := blocks fuel { r with ready := r.ready.drop blockSize }
        (r.ready.take blockSize :: bs, fault)

def ofOctets (octets : List UInt8) : List (List Nat) × Option Utf8.Fault :=
  blocks (octets.length + 2) (start octets)

end AlertRelay.Blocks
