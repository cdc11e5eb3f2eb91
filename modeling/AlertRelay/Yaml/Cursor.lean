import AlertRelay.Text.Blocks
import AlertRelay.Yaml.Error

/-! A settings text as it comes from its octets, and a place in it. The text comes block by block, the
first two together; a block with a character that no settings text may hold is not readable, nor is
anything after it, and whoever looks at what lies there meets what is wrong. Lines end with a line
feed, a next-line control, or a line or paragraph separator; a byte order mark takes no column.
To move on means to look at the character that is reached. -/
namespace AlertRelay.Yaml

def isBreak (c : Char) : Bool := c = '\n' || c = '\x85' || c = '\u2028' || c = '\u2029'

def endMark : Char := '\x00'

def isLineEnd (c : Char) : Bool := c = endMark || isBreak c

def isBlankOrEnd (c : Char) : Bool := c = ' ' || c = '\t' || isLineEnd c

def isSpaceOrEnd (c : Char) : Bool := c = ' ' || isLineEnd c

/-- The characters from here on that can be read, what is wrong with those after them, how many can
be read in all, and how far this is from the start. -/
structure Cursor where
  rest : List Char
  trouble : Option Error
  size : Nat
  index : Nat
  line : Nat
  column : Nat

namespace Cursor

def next (c : Cursor) : Cursor :=
  match c.rest with
  | [] => c
  | ch :: r =>
    if isBreak ch then ⟨r, c.trouble, c.size, c.index + 1, c.line + 1, 0⟩
    else if ch = '\ufeff' then ⟨r, c.trouble, c.size, c.index + 1, c.line, c.column⟩
    else ⟨r, c.trouble, c.size, c.index + 1, c.line, c.column + 1⟩

def advance : Nat → Cursor → Cursor
  | 0, c => c
  | n + 1, c => advance n c.next

def left (c : Cursor) : Nat := c.size - c.index

def peek (c : Cursor) (n : Nat) : Except Error Char :=
  match c.rest[n]?, c.trouble with
  | some ch, _ => .ok ch
  | none, some e => .error e
  | none, none => .ok endMark

end Cursor

def isReadable (c : Nat) : Bool :=
  c = 9 || c = 10 || c = 13 || (0x20 ≤ c && c ≤ 0x7e) || c = 0x85 || (0xa0 ≤ c && c ≤ 0xd7ff)
    || (0xe000 ≤ c && c ≤ 0xfffd) || 0x10000 ≤ c

structure Source where
  readable : List Char
  trouble : Option Error

namespace Source

def ofBlocks (fault : Option Utf8.Fault) : List (List Nat) → Source
  | [] => ⟨[], fault.map .octets⟩
  | b :: r =>
    if b.all isReadable then
      let s := ofBlocks fault r
      ⟨b.map Char.ofNat ++ s.readable, s.trouble⟩
    else ⟨[], some .unreadable⟩

/-- The first two blocks are read before anything in them is looked at. -/
def ofOctets (octets : List UInt8) : Source :=
  match Blocks.ofOctets octets with
  | (a :: b :: r, fault) => ofBlocks fault ((a ++ b) :: r)
  | ([a], none) => ofBlocks none [a]
  | (_, fault) => ⟨[], fault.map .octets⟩

def start (s : Source) : Cursor := ⟨s.readable, s.trouble, s.readable.length, 0, 0, 0⟩

end Source

abbrev Scan := StateT Cursor (Except Error)

namespace Scan

def peekAt (n : Nat) : Scan Char := fun c => (c.peek n).map (fun ch => (ch, c))

def peek : Scan Char := peekAt 0

def fail {α : Type} : Scan α := throw .token

def bound : Scan Nat := fun c => .ok (c.left + 2, c)

def column : Scan Nat := fun c => .ok (c.column, c)

def advance (n : Nat) : Scan Unit := do
  modify (Cursor.advance n)
  let _ ← peek

def next : Scan Unit := advance 1

/-- The characters from here on that satisfy a test; the one after them is looked at. -/
def lookAhead (p : Char → Bool) : Scan (List Char) := do
  let cs := (← get).rest.takeWhile p
  let _ ← peekAt cs.length
  return cs

def span (p : Char → Bool) : Scan (List Char) := do
  let cs ← lookAhead p
  advance cs.length
  return cs

def skip (p : Char → Bool) : Scan Unit := do
  let _ ← span p

def skipSpaces : Scan Unit := skip (· = ' ')

def skipComment : Scan Unit := do
  if (← peek) = '#' then skip (fun ch => !isLineEnd ch)

def lineBreak? : Scan (Option Nat) := do
  let ch ← peek
  if ch = '\n' || ch = '\x85' then
    next
    return some 10
  else if ch = '\u2028' || ch = '\u2029' then
    next
    return some ch.toNat
  else return none

def startsWith3 (mark : Char) : Scan Bool := do
  let _ ← peekAt 2
  if (← get).rest.take 3 == [mark, mark, mark] then return isBlankOrEnd (← peekAt 3)
  else return false

def atSeparator : Scan Bool := do
  if ← startsWith3 '-' then return true else startsWith3 '.'

end Scan
end AlertRelay.Yaml
