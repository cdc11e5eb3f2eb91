import AlertRelay.Yaml.Lexeme
import AlertRelay.Yaml.Cursor

/-! The tokens of a settings text, read on demand. A scalar or a collection that turns out to
be a key is known as one only at the colon after it, so where a key could start is kept
in mind, and tokens wait until that is settled. Indentation opens and closes blocks. -/
namespace AlertRelay.Yaml

structure KeySpot where
  token : Nat
  required : Bool
  index : Nat
  line : Nat
  column : Nat

structure Tokens where
  cursor : Cursor
  queue : List Token
  taken : Nat
  indent : Int
  outer : List Int
  flow : Int
  keyAllowed : Bool
  spots : List (Int × KeySpot)
  ended : Bool

namespace Tokens

def start (s : Source) : Tokens :=
  ⟨s.start, [], 0, -1, [], 0, true, [], false⟩

def inFlow (t : Tokens) : Bool := t.flow != 0

def push (t : Tokens) (k : Token) : Tokens := { t with queue := t.queue ++ [k] }

def scan {α : Type} (t : Tokens) (s : Scan α) : Except Error (α × Tokens) :=
  (s.run t.cursor).map (fun p => (p.1, { t with cursor := p.2 }))

def advance (t : Tokens) (n : Nat) : Except Error Tokens := (t.scan (Scan.advance n)).map Prod.snd

def allowKey (t : Tokens) (b : Bool) : Tokens := { t with keyAllowed := b }

/-- A spot lasts for one line and 1024 characters. A required one may not lapse. -/
def dropStale (t : Tokens) : Except Error Tokens :=
  let stale (s : Int × KeySpot) : Bool :=
    s.2.line != t.cursor.line || t.cursor.index > s.2.index + 1024
  if t.spots.any (fun s => stale s && s.2.required) then .error .token
  else .ok { t with spots := t.spots.filter (fun s => !stale s) }

def dropSpot (t : Tokens) : Except Error Tokens :=
  match t.spots.lookup t.flow with
  | some s => if s.required then .error .token
    else .ok { t with spots := t.spots.filter (fun s => s.1 != t.flow) }
  | none => .ok t

def saveSpot (t : Tokens) : Except Error Tokens := do
  if !t.keyAllowed then return t
  let required := !t.inFlow && t.indent == t.cursor.column
  let t ← t.dropSpot
  let s : KeySpot :=
    ⟨t.taken + t.queue.length, required, t.cursor.index, t.cursor.line, t.cursor.column⟩
  return { t with spots := t.spots ++ [(t.flow, s)] }

def unwindTo (column : Int) : List Int → Tokens → Tokens
  | [], t => t
  | i :: r, t =>
    if t.indent > column then
      unwindTo column r { t with indent := i, outer := r, queue := t.queue ++ [.blockEnd] }
    else t

def unwind (t : Tokens) (column : Int) : Tokens :=
  if t.inFlow then t else unwindTo column t.outer t

def addIndent (t : Tokens) (column : Nat) : Option Tokens :=
  if t.indent < column then some { t with indent := column, outer := t.indent :: t.outer } else none

def openBlock (t : Tokens) (k : Token) : Tokens :=
  match t.addIndent t.cursor.column with
  | some t => t.push k
  | none => t

def textEnd (t : Tokens) : Except Error Tokens := do
  let t ← (t.unwind (-1)).dropSpot
  return { t with keyAllowed := false, spots := [], ended := true, queue := t.queue ++ [.textEnd] }

def directive (t : Tokens) : Except Error Tokens := do
  let t ← (t.unwind (-1)).dropSpot
  let (d, t) ← (t.allowKey false).scan Lexeme.directive
  return t.push (.directive d)

def separator (t : Tokens) (k : Token) : Except Error Tokens := do
  let t ← (t.unwind (-1)).dropSpot
  return (← (t.allowKey false).advance 3).push k

def flowStart (t : Tokens) (k : Token) : Except Error Tokens := do
  let t ← t.saveSpot
  let t ← (t.allowKey true).advance 1
  return { t.push k with flow := t.flow + 1 }

def flowEnd (t : Tokens) (k : Token) : Except Error Tokens := do
  let t ← t.dropSpot
  let t ← (t.allowKey false).advance 1
  return { t.push k with flow := t.flow - 1 }

def flowEntry (t : Tokens) : Except Error Tokens := do
  let t ← (t.allowKey true).dropSpot
  return (← t.advance 1).push .flowEntry

def blockEntry (t : Tokens) : Except Error Tokens := do
  if !t.inFlow && !t.keyAllowed then throw .token
  let t := if t.inFlow then t else t.openBlock .blockSequenceStart
  let t ← (t.allowKey true).dropSpot
  return (← t.advance 1).push .blockEntry

def key (t : Tokens) : Except Error Tokens := do
  if !t.inFlow && !t.keyAllowed then throw .token
  let t := if t.inFlow then t else t.openBlock .blockMappingStart
  let t ← (t.allowKey (!t.inFlow)).dropSpot
  return (← t.advance 1).push .key

def insertAt (n : Nat) (k : Token) (ks : List Token) : List Token := ks.take n ++ k :: ks.drop n

/-- A colon: what started at the spot of this level was a key, or an empty key stands here. -/
def value (t : Tokens) : Except Error Tokens := do
  match t.spots.lookup t.flow with
  | some s =>
    let place := s.token - t.taken
    let t := { t with spots := t.spots.filter (fun s => s.1 != t.flow),
                      queue := insertAt place .key t.queue }
    let t := if t.inFlow then t else match t.addIndent s.column with
      | some t => { t with queue := insertAt place .blockMappingStart t.queue }
      | none => t
    return (← (t.allowKey false).advance 1).push .value
  | none =>
    if !t.inFlow && !t.keyAllowed then throw .token
    let t := if t.inFlow then t else t.openBlock .blockMappingStart
    let t ← (t.allowKey (!t.inFlow)).dropSpot
    return (← t.advance 1).push .value

def lexeme (t : Tokens) (s : Scan Token) : Except Error Tokens := do
  let t ← t.saveSpot
  let (k, t) ← (t.allowKey false).scan s
  return t.push k

def plain (t : Tokens) : Except Error Tokens := do
  let t ← t.saveSpot
  let ((s, left), t) ← t.scan (Lexeme.plain t.inFlow (t.indent + 1))
  return (t.allowKey left).push (.scalar s true)

def block (t : Tokens) (folded : Bool) : Except Error Tokens := do
  let t ← (t.allowKey true).dropSpot
  let (s, t) ← t.scan (Lexeme.block folded t.indent)
  return t.push (.scalar s false)

def skipToNext : Nat → Bool → Scan Bool
  | 0, left => return left
  | fuel + 1, left => do
    Scan.skipSpaces
    Scan.skipComment
    match ← Scan.lineBreak? with
    | some _ => skipToNext fuel true
    | none => return left

def gap : Scan Bool := do
  if (← get).index = 0 then
    if (← Scan.peek) = '\ufeff' then Scan.next
  skipToNext (← Scan.bound) false

def toNext (t : Tokens) : Except Error Tokens := do
  let (left, t) ← t.scan gap
  return t.allowKey (t.keyAllowed || (left && !t.inFlow))

def fetch (t : Tokens) : Except Error Tokens := do
  let t ← (← t.toNext).dropStale
  let t := t.unwind t.cursor.column
  let (start, t) ← t.scan (Lexeme.start t.inFlow)
  match start with
  | .textEnd => t.textEnd
  | .directive => t.directive
  | .documentStart => t.separator .documentStart
  | .documentEnd => t.separator .documentEnd
  | .flowSequenceStart => t.flowStart .flowSequenceStart
  | .flowMappingStart => t.flowStart .flowMappingStart
  | .flowSequenceEnd => t.flowEnd .flowSequenceEnd
  | .flowMappingEnd => t.flowEnd .flowMappingEnd
  | .flowEntry => t.flowEntry
  | .blockEntry => t.blockEntry
  | .key => t.key
  | .value => t.value
  | .reference => t.lexeme (Token.reference <$> Lexeme.anchorName)
  | .anchor => t.lexeme (Token.anchor <$> Lexeme.anchorName)
  | .tag => t.lexeme (Token.tag <$> Lexeme.tagName)
  | .quoted double => t.lexeme ((fun s => Token.scalar s false) <$> Lexeme.quoted double)
  | .block folded => t.block folded
  | .plain => t.plain

/-- Whether the first token in the queue may still turn out to be preceded by another. -/
def isPending (t : Tokens) : Bool :=
  t.queue.isEmpty || t.spots.any (fun s => s.2.token == t.taken)

def settle : Nat → Tokens → Except Error Tokens
  | 0, _ => .error .token
  | fuel + 1, t => do
    if t.ended then return t
    if t.queue.isEmpty then settle fuel (← t.fetch)
    else
      let t ← t.dropStale
      if t.isPending then settle fuel (← t.fetch) else return t

def peek (t : Tokens) : Except Error (Token × Tokens) := do
  let t ← settle (t.cursor.left + 4) t
  return (t.queue.headD .textEnd, t)

def drop (t : Tokens) : Tokens := { t with queue := t.queue.drop 1, taken := t.taken + 1 }

end Tokens
end AlertRelay.Yaml
