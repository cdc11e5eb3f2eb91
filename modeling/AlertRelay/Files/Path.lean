import AlertRelay.Text.Quoted
import AlertRelay.Text.Utf8

/-! Paths as text. A path is a root and the names after it; empty names and single dots mean
nothing, and two leading slashes are a root of their own. -/
namespace AlertRelay

structure Path where
  root : Text
  names : List Text
deriving DecidableEq

namespace Path

def slash : Nat := 0x2f

def dot : Text := "."
def dots : Text := ".."

def pieces : List Nat → List (List Nat)
  | [] => [[]]
  | c :: r => match pieces r with
    | p :: ps => if c = slash then [] :: p :: ps else (c :: p) :: ps
    | [] => [[c]]

def steps (t : Text) : List Text := ((pieces t.codes).filter (fun p => !p.isEmpty)).map Text.mk

/-- The leading slashes of a text that count: two if there are exactly two, otherwise at most one. -/
def rootOf (t : Text) : Text :=
  let slashes := t.codes.takeWhile (· = slash)
  ⟨if slashes.length = 2 then slashes else slashes.take 1⟩

def ofText (t : Text) : Path := ⟨rootOf t, (steps t).filter (· ≠ dot)⟩

def text (p : Path) : Text :=
  if p.root.isEmpty && p.names.isEmpty then dot else p.root ++ Text.join "/" p.names

def isRooted (t : Text) : Bool := t.codes.head? = some slash

def isOpenEnded (t : Text) : Bool := t.codes.getLast? = some slash

/-- A text cut after its last slash. Slashes at the end of the first part are dropped, unless it
holds nothing else. -/
def split (t : Text) : Text × Text :=
  let back := t.codes.reverse
  let head := back.dropWhile (· ≠ slash)
  let tail := (back.takeWhile (· ≠ slash)).reverse
  if head.all (· = slash) then (⟨head.reverse⟩, ⟨tail⟩)
  else (⟨(head.dropWhile (· = slash)).reverse⟩, ⟨tail⟩)

end Path
end AlertRelay

/-! The octets that a name has for the system. Octets that are no valid UTF-8 are held in a name as
low surrogates from DC80 on; any other surrogate makes a name that cannot be written. -/
namespace AlertRelay.Name

/-- A row of surrogates that cannot be written: the first of them, where it stands, and how many. -/
structure Unwritable where
  point : Nat
  start : Nat
  size : Nat
deriving DecidableEq

def isHeldOctet (c : Nat) : Bool := 0xDC80 ≤ c && c ≤ 0xDCFF

def octetsFrom (at_ : Nat) : List Nat → Except Unwritable (List UInt8)
  | [] => .ok []
  | c :: r =>
    if isHeldOctet c then (octetsFrom (at_ + 1) r).map (UInt8.ofNat (c - 0xDC00) :: ·)
    else if isSurrogate c then .error ⟨c, at_, ((c :: r).takeWhile isSurrogate).length⟩
    else (octetsFrom (at_ + 1) r).map (Utf8.encodePoint c ++ ·)

def octets (t : Text) : Except Unwritable (List UInt8) := octetsFrom 0 t.codes

def size (t : Text) : Nat := match octets t with
  | .ok bs => bs.length
  | .error _ => 0

inductive Refusal
  | unwritable (u : Unwritable)
  | zero
deriving DecidableEq

def check (t : Text) : Except Refusal Unit :=
  match octets t with
  | .error u => .error (.unwritable u)
  | .ok bs => if bs.contains 0 then .error .zero else .ok ()

def Unwritable.message (u : Unwritable) : String :=
  if u.size = 1 then
    "'utf-8' codec can't encode character '\\u" ++ String.ofList (Text.hexDigits 4 u.point)
      ++ "' in position " ++ toString u.start ++ ": surrogates not allowed"
  else
    "'utf-8' codec can't encode characters in position " ++ toString u.start ++ "-"
      ++ toString (u.start + u.size - 1) ++ ": surrogates not allowed"

def Refusal.message : Refusal → String
  | unwritable u => u.message
  | zero => "embedded null byte"

end AlertRelay.Name
