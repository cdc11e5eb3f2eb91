import AlertRelay.Text.Utf8
import AlertRelay.Yaml.Cursor

/-! The lexemes of a settings text: directives, names of anchors, tags, and the scalars in
their four written forms. Each function reads one from a place on and leaves the place after
it. Text is kept by code points, since an escape can stand for any. -/
namespace AlertRelay.Yaml

structure TagName where
  handle : Option String
  suffix : String

inductive Directive
  | version (major : Nat)
  | handle (name replacement : String)
  | other

inductive Token
  | directive (d : Directive)
  | documentStart
  | documentEnd
  | textEnd
  | blockSequenceStart
  | blockMappingStart
  | blockEnd
  | flowSequenceStart
  | flowSequenceEnd
  | flowMappingStart
  | flowMappingEnd
  | blockEntry
  | flowEntry
  | key
  | value
  | reference (name : String)
  | anchor (name : String)
  | tag (name : TagName)
  | scalar (text : List Nat) (plain : Bool)

namespace Lexeme

open Scan

def isWordChar (c : Char) : Bool := c.isAlphanum || c = '-' || c = '_'

def points (cs : List Char) : List Nat := cs.map Char.toNat

def word : Scan String := do
  let cs ← span isWordChar
  if cs.isEmpty then fail
  return String.ofList cs

def anchorName : Scan String := do
  next
  let name ← word
  let ch ← peek
  if isBlankOrEnd ch || ['?', ':', ',', ']', '\x7d', '%', '@', '\x60'].contains ch then return name
  else fail

def hexValue? (c : Char) : Option Nat :=
  if '0' ≤ c && c ≤ '9' then some (c.toNat - 48)
  else if 'a' ≤ c && c ≤ 'f' then some (c.toNat - 87)
  else if 'A' ≤ c && c ≤ 'F' then some (c.toNat - 55)
  else none

def hexAt (at_ value : Nat) : Nat → Scan Nat
  | 0 => return value
  | n + 1 => do
    match hexValue? (← peekAt at_) with
    | some d => hexAt (at_ + 1) (value * 16 + d) n
    | none => fail

def isAddressChar (c : Char) : Bool :=
  c.isAlphanum || "-;/?:@&=+$,_.!~*\x27()[]%".toList.contains c

def octets : Nat → Scan (List UInt8)
  | 0 => return []
  | fuel + 1 => do
    if (← peek) != '%' then return []
    next
    let b ← hexAt 0 0 2
    advance 2
    return UInt8.ofNat b :: (← octets fuel)

def addressChars : Nat → Scan (List Char)
  | 0 => return []
  | fuel + 1 => do
    let here ← span (fun ch => isAddressChar ch && ch != '%')
    if (← peek) != '%' then return here
    match Utf8.decode? (← octets (← bound)) with
    | none => fail
    | some t => return here ++ t.codes.map Char.ofNat ++ (← addressChars fuel)

def address : Scan String := do
  if !isAddressChar (← peek) then fail
  return String.ofList (← addressChars (← bound))

def handle : Scan String := do
  if (← peek) != '!' then fail
  next
  if (← peek) = ' ' then return "!"
  let name ← span isWordChar
  if (← peek) != '!' then fail
  next
  return "!" ++ String.ofList name ++ "!"

def hasHandle : Scan Bool := do
  let cs := (← get).rest.drop 1
  let n := (cs.takeWhile (fun ch => !isSpaceOrEnd ch && ch != '!')).length
  return (← peekAt (n + 1)) = '!'

def tagName : Scan TagName := do
  let ch ← peekAt 1
  let name ←
    if ch = '<' then do
      advance 2
      let suffix ← address
      if (← peek) != '>' then fail
      next
      pure (TagName.mk none suffix)
    else if isBlankOrEnd ch then do
      next
      pure (TagName.mk none "!")
    else if ← hasHandle then do
      let h ← handle
      pure (TagName.mk (some h) (← address))
    else do
      next
      pure (TagName.mk (some "!") (← address))
  if isSpaceOrEnd (← peek) then return name else fail

def restOfLine : Scan Unit := do
  skipSpaces
  skipComment
  if !isLineEnd (← peek) then fail
  let _ ← lineBreak?

def number : Scan Nat := do
  let ds ← lookAhead Char.isDigit
  if ds.isEmpty then fail
  if ds.length > 4300 then throw (.misfit (.wholeSize ds.length))
  advance ds.length
  return ds.foldl (fun n d => n * 10 + (d.toNat - 48)) 0

def versionNumber : Scan Directive := do
  skipSpaces
  let major ← number
  if (← peek) != '.' then fail
  next
  let _ ← number
  if isSpaceOrEnd (← peek) then return .version major else fail

def handleRule : Scan Directive := do
  skipSpaces
  let h ← handle
  if (← peek) != ' ' then fail
  skipSpaces
  let a ← address
  if isSpaceOrEnd (← peek) then return .handle h a else fail

def directive : Scan Directive := do
  next
  let name ← word
  if !isSpaceOrEnd (← peek) then fail
  let d ←
    if name = "YAML" then versionNumber
    else if name = "TAG" then handleRule
    else do
      skip (fun ch => !isLineEnd ch)
      pure Directive.other
  restOfLine
  return d

/-! What stands at a place -/

inductive Start
  | textEnd
  | directive
  | documentStart
  | documentEnd
  | flowSequenceStart
  | flowMappingStart
  | flowSequenceEnd
  | flowMappingEnd
  | flowEntry
  | blockEntry
  | key
  | value
  | reference
  | anchor
  | tag
  | block (folded : Bool)
  | quoted (double : Bool)
  | plain

def startOf? (flow : Bool) (ch : Char) : Option Start :=
  if ch = '[' then some .flowSequenceStart
  else if ch = '\x7b' then some .flowMappingStart
  else if ch = ']' then some .flowSequenceEnd
  else if ch = '\x7d' then some .flowMappingEnd
  else if ch = ',' then some .flowEntry
  else if ch = '?' && flow then some .key
  else if ch = ':' && flow then some .value
  else if ch = '*' then some .reference
  else if ch = '&' then some .anchor
  else if ch = '!' then some .tag
  else if ch = '|' && !flow then some (.block false)
  else if ch = '>' && !flow then some (.block true)
  else if ch = '\x27' then some (.quoted false)
  else if ch = '\x22' then some (.quoted true)
  else none

def loneStart? (ch : Char) : Option Start :=
  if ch = '-' then some .blockEntry
  else if ch = '?' then some .key
  else if ch = ':' then some .value
  else none

def indicators : List Char :=
  ['-', '?', ':', ',', '[', ']', '\x7b', '\x7d', '#', '&', '*', '!', '|', '>', '\x27', '\x22', '%',
    '@', '\x60']

def lineStart? (ch : Char) : Scan (Option Start) := do
  if (← column) != 0 then return none
  if ch = '%' then return some .directive
  if ch = '-' then
    if ← startsWith3 '-' then return some .documentStart
  if ch = '.' then
    if ← startsWith3 '.' then return some .documentEnd
  return none

/-- What stands here. A mark may also begin a plain scalar, unless a blank follows it. -/
def start (flow : Bool) : Scan Start := do
  let ch ← peek
  if ch = endMark then return .textEnd
  match ← lineStart? ch with
  | some s => return s
  | none => match startOf? flow ch with
    | some s => return s
    | none =>
      if !isBlankOrEnd ch && !indicators.contains ch then return .plain
      let isAlone := isBlankOrEnd (← peekAt 1)
      match isAlone, loneStart? ch with
      | true, some s => return s
      | true, none => fail
      | false, _ => if ch = '-' || (!flow && (ch = '?' || ch = ':')) then return .plain else fail

/-! Plain scalars -/

def plainWord (flow : Bool) : List Char → List Char
  | [] => []
  | ch :: r =>
    let next := r.headD endMark
    let flowMark (c : Char) : Bool := [',', '[', ']', '\x7b', '\x7d'].contains c
    if isBlankOrEnd ch || (ch = ':' && (isBlankOrEnd next || (flow && flowMark next)))
      || (flow && (ch = '?' || flowMark ch)) then []
    else ch :: plainWord flow r

/-- The length of the word here. What ends it is looked at: a character, or a colon and one more. -/
def plainLength (flow : Bool) : Scan (List Char) := do
  if (← peek) = '#' then return []
  let word := plainWord flow (← get).rest
  if (← peekAt word.length) = ':' then
    let _ ← peekAt (word.length + 1)
  return word

def plainBreaks : Nat → Scan (Option (List Nat))
  | 0 => return some []
  | fuel + 1 => do
    skipSpaces
    match ← lineBreak? with
    | none => return some []
    | some b =>
      if ← atSeparator then return none
      return (← plainBreaks fuel).map (b :: ·)

/-- A break on its own is a space; of several the first is dropped, unless it is a separator. -/
def fold (first : Nat) (more : List Nat) : List Nat :=
  if first != 10 then first :: more else if more.isEmpty then [32] else more

/-- What stands between two words: what it contributes, and whether the line was left. The scalar
ends where there is nothing. -/
def plainGap : Scan (List Nat × Bool) := do
  let spaces ← span (· = ' ')
  match ← lineBreak? with
  | none => return (points spaces, false)
  | some b =>
    if ← atSeparator then return ([], true)
    match ← plainBreaks (← bound) with
    | none => return ([], true)
    | some more => return (fold b more, true)

/-- Words from here on, with what stands between them. Also answers whether a line was left after
the last one. -/
def plainFrom (flow : Bool) (indent : Int) : Nat → List Nat → Bool → Scan (List Nat × Bool)
  | 0, _, left => return ([], left)
  | fuel + 1, gap, left => do
    let word ← plainLength flow
    if word.isEmpty then return ([], left)
    advance word.length
    let here := gap ++ points word
    let (gap, left) ← plainGap
    if gap.isEmpty then return (here, left)
    if (← peek) = '#' then return (here, left)
    if !flow && ((← column) : Int) < indent then return (here, left)
    let (more, left) ← plainFrom flow indent fuel gap left
    return (here ++ more, left)

def plain (flow : Bool) (indent : Int) : Scan (List Nat × Bool) := do
  plainFrom flow indent (← bound) [] false

/-! Quoted scalars -/

def escape? (c : Char) : Option Nat :=
  (["0", "a", "b", "t", "\t", "n", "v", "f", "r", "e", " ", "\x22", "\\", "/", "N", "_", "L", "P"].zip
    [0, 7, 8, 9, 9, 10, 11, 12, 13, 27, 32, 0x22, 0x5c, 0x2f, 0x85, 0xa0, 0x2028, 0x2029]).lookup
      (String.singleton c)

def escapeWidth? (c : Char) : Option Nat :=
  if c = 'x' then some 2 else if c = 'u' then some 4 else if c = 'U' then some 8 else none

def isBlank (c : Char) : Bool := c = ' ' || c = '\t'

def quotedBreaks : Nat → Scan (List Nat)
  | 0 => return []
  | fuel + 1 => do
    if ← atSeparator then fail
    skip isBlank
    match ← lineBreak? with
    | none => return []
    | some b => return b :: (← quotedBreaks fuel)

def escaped : Scan (List Nat) := do
  let ch ← peek
  match escape? ch, escapeWidth? ch with
  | some n, _ =>
    next
    return [n]
  | none, some width =>
    next
    let n ← hexAt 0 0 width
    if n ≥ 0x80000000 then throw (.misfit .codePointSize)
    if n ≥ 0x110000 then throw (.misfit .codePoint)
    advance width
    return [n]
  | none, none => match ← lineBreak? with
    | some _ => quotedBreaks (← bound)
    | none => fail

def quotedWord (double : Bool) : Nat → Scan (List Nat)
  | 0 => return []
  | fuel + 1 => do
    let here ← span (fun ch => !isBlankOrEnd ch && ch != '\x27' && ch != '\x22' && ch != '\\')
    let here := points here
    let ch ← peek
    if isBlankOrEnd ch then return here
    if !double && ch = '\x27' then
      if (← peekAt 1) != '\x27' then return here
      advance 2
      return here ++ 0x27 :: (← quotedWord double fuel)
    if double && ch = '\x22' then return here
    next
    if double && ch = '\\' then
      let e ← escaped
      return here ++ e ++ (← quotedWord double fuel)
    return here ++ ch.toNat :: (← quotedWord double fuel)

def quotedGap : Scan (List Nat) := do
  let blanks ← span isBlank
  if (← peek) = endMark then fail
  match ← lineBreak? with
  | some b => return fold b (← quotedBreaks (← bound))
  | none => return points blanks

def quotedFrom (double : Bool) : Nat → Scan (List Nat)
  | 0 => fail
  | fuel + 1 => do
    let here ← quotedWord double (← bound)
    if (← peek) = (if double then '\x22' else '\x27') then
      next
      return here
    let gap ← quotedGap
    return here ++ gap ++ (← quotedFrom double fuel)

def quoted (double : Bool) : Scan (List Nat) := do
  next
  quotedFrom double (← bound)

/-! Block scalars -/

inductive Chomping
  | strip
  | clip
  | keep
deriving DecidableEq

def chomping? (c : Char) : Option Chomping :=
  if c = '+' then some .keep else if c = '-' then some .strip else none

def blockWidth : Scan (Option Nat) := do
  let ch ← peek
  if !ch.isDigit then return none
  if ch = '0' then fail
  next
  return some (ch.toNat - 48)

def blockHeader : Scan (Chomping × Option Nat) := do
  let head ← match chomping? (← peek) with
    | some h => do
      next
      pure (h, ← blockWidth)
    | none => do
      match ← blockWidth with
      | none => pure (Chomping.clip, none)
      | some d => match chomping? (← peek) with
        | some h => do
          next
          pure (h, some d)
        | none => pure (Chomping.clip, some d)
  if isSpaceOrEnd (← peek) then return head else fail

/-- Leading empty lines and the widest indentation among them and the first other line. -/
def blockIndentation : Nat → Nat → Scan (List Nat × Nat)
  | 0, widest => return ([], widest)
  | fuel + 1, widest => do
    let spaces ← span (· = ' ')
    let reached ← column
    let widest := if spaces.isEmpty then widest else max widest reached
    match ← lineBreak? with
    | none => return ([], widest)
    | some b =>
      let (more, widest) ← blockIndentation fuel widest
      return (b :: more, widest)

def skipIndent (indent : Nat) : Nat → Scan Unit
  | 0 => return
  | fuel + 1 => do
    if (← column) < indent then
      if (← peek) = ' ' then
        next
        skipIndent indent fuel

def blockBreaks (indent : Nat) : Nat → Scan (List Nat)
  | 0 => return []
  | fuel + 1 => do
    skipIndent indent (← bound)
    match ← lineBreak? with
    | none => return []
    | some b => return b :: (← blockBreaks indent fuel)

def atBlockLine (indent : Nat) : Scan Bool := do
  if (← column) = indent then return (← peek) != endMark else return false

/-- The lines from here on: their text without the end, the last line break and the empty lines
after it. -/
def blockLines (folded : Bool) (indent : Nat) :
    Nat → List Nat → Scan (List Nat × List Nat × List Nat)
  | 0, breaks => return ([], [], breaks)
  | fuel + 1, breaks => do
    let startsBlank := isBlank (← peek)
    let line ← span (fun ch => !isLineEnd ch)
    let first := (← lineBreak?).toList
    let more ← blockBreaks indent (← bound)
    let here := breaks ++ points line
    if ← atBlockLine indent then
      let joint :=
        if folded && first = [10] && !startsBlank && !isBlank (← peek) then
          (if more.isEmpty then [32] else [])
        else first
      let (text, last, breaks) ← blockLines folded indent fuel more
      return (here ++ joint ++ text, last, breaks)
    else return (here, first, more)

def block (folded : Bool) (parent : Int) : Scan (List Nat) := do
  next
  let (chomping, increment) ← blockHeader
  restOfLine
  let least := max (parent + 1).toNat 1
  let (indent, breaks) ← match increment with
    | none => do
      let (breaks, widest) ← blockIndentation (← bound) 0
      pure (max least widest, breaks)
    | some n => do
      let breaks ← blockBreaks (least + n - 1) (← bound)
      pure (least + n - 1, breaks)
  let (text, last, breaks) ←
    if ← atBlockLine indent then blockLines folded indent (← bound) breaks
    else pure ([], [], breaks)
  match chomping with
  | .strip => return text
  | .clip => return text ++ last
  | .keep => return text ++ last ++ breaks

end Lexeme
end AlertRelay.Yaml
