import AlertRelay.Yaml.Convert
import AlertRelay.Yaml.Graph

/-! The data of a settings text. Scalars are converted where they are met; the parts of a
collection only after those of the collections met before it, level by level. A mapping
may take over entries of others, which its own entries override. -/
namespace AlertRelay.Yaml

inductive Datum
  | scalar (s : Scalar)
  | node (i : Nat)

inductive Parts
  | list (xs : List Datum)
  | pairs (xs : List (Datum × Datum))
  | set (xs : List Scalar)
  | map (es : List (Scalar × Datum))

structure Conversion where
  nodes : Array Node
  waiting : List Nat
  done : List (Nat × Parts)

abbrev Convert := StateT Conversion (Except Error)

namespace Convert

def nodeAt (i : Nat) : Convert Node := do
  match (← get).nodes[i]? with
  | some n => return n
  | none => throw .content

def setContent (i : Nat) (c : Content) : Convert Unit :=
  modify (fun s => { s with nodes := s.nodes.modify i (fun n => ⟨n.tag, c⟩) })

def setTag (i : Nat) (tag : String) : Convert Unit :=
  modify (fun s => { s with nodes := s.nodes.modify i (fun n => ⟨tag, n.content⟩) })

/-- The text of a scalar. A mapping with a default value stands for the text of that value, which must
lie within as many mappings as there are steps left: more of them go in a circle. -/
def textOf : Nat → Nat → Convert (List Nat)
  | 0, _ => throw .tooDeep
  | fuel + 1, i => do
    match (← nodeAt i).content with
    | .scalar text => return text
    | .sequence _ => throw .content
    | .mapping es =>
      for (k, v) in es do
        if (← nodeAt k).tag = standardTag "value" then return ← textOf fuel v
      throw .content

def await (i : Nat) : Convert Datum := do
  let s ← get
  if !s.waiting.contains i && (s.done.lookup i).isNone then
    set { s with waiting := s.waiting ++ [i] }
  return .node i

def collectionTags : List String := ["omap", "pairs", "set", "seq", "map"]

def datum (i : Nat) : Convert Datum := do
  let n ← nodeAt i
  let size := (← get).nodes.size + 1
  let text := textOf size i
  let scalar (s : Except Error Scalar) : Convert Datum := (fun s => .scalar s) <$> (liftM s)
  if n.tag = standardTag "str" then return .scalar (.text ⟨← text⟩)
  else if n.tag = standardTag "null" then
    let _ ← text
    return .scalar .null
  else if n.tag = standardTag "bool" then scalar ((toBool (← text)).map .bool)
  else if n.tag = standardTag "int" then scalar ((toInt (← text)).map .int)
  else if n.tag = standardTag "float" then scalar ((toFloat (← text)).map .float)
  else if n.tag = standardTag "binary" then scalar ((toBytes (← text)).map .bytes)
  else if n.tag = standardTag "timestamp" then
    let text ← text
    match n.content with
    | .scalar _ => scalar (toTime text)
    | _ => throw (.misfit .timestampNode)
  else if (collectionTags.map standardTag).contains n.tag then await i
  else throw .content

def entriesOf (i : Nat) : Convert (List (Nat × Nat)) := do
  match (← nodeAt i).content with
  | .mapping es => return es
  | _ => throw .content

/-- The first merge key among some entries, of which the first has the number `at_`: its number and
its value. Keys with the mark for a default value become plain text on the way. -/
def nextMerge (at_ : Nat) : List (Nat × Nat) → Convert (Option (Nat × Nat))
  | [] => return none
  | (k, v) :: r => do
    let tag := (← nodeAt k).tag
    if tag = standardTag "merge" then return some (at_, v)
    if tag = standardTag "value" then setTag k (standardTag "str")
    nextMerge (at_ + 1) r

mutual
/-- The entries that a merge key brings: those of a mapping, or of all mappings in a sequence, the
last first. -/
def merged : Nat → Nat → Convert (List (Nat × Nat))
  | 0, _ => throw .content
  | fuel + 1, i => do
    match (← nodeAt i).content with
    | .mapping _ => flatten fuel i 0 []; entriesOf i
    | .sequence items => mergedAll fuel items
    | .scalar _ => throw .content
def mergedAll : Nat → List Nat → Convert (List (Nat × Nat))
  | 0, _ => throw .content
  | _, [] => return []
  | fuel + 1, i :: r => do
    match (← nodeAt i).content with
    | .mapping _ =>
      flatten fuel i 0 []
      let es ← entriesOf i
      return (← mergedAll fuel r) ++ es
    | _ => throw .content
/-- Replaces the merge keys of a mapping, from the entry numbered `at_` on, by the entries they
stand for, which go before its own. -/
def flatten : Nat → Nat → Nat → List (Nat × Nat) → Convert Unit
  | 0, _, _, _ => throw .content
  | fuel + 1, i, at_, found => do
    let es ← entriesOf i
    match ← nextMerge at_ (es.drop at_) with
    | none => if !found.isEmpty then setContent i (.mapping (found ++ es))
    | some (n, v) =>
      setContent i (.mapping (es.eraseIdx n))
      let more ← merged fuel v
      flatten fuel i n (found ++ more)
end

/-- A key with what tells one NaN from another, since no NaN equals any: the number of its node, or
nothing for the one that has a word of its own. -/
structure Key where
  scalar : Scalar
  origin : Option Nat

def Key.same (a b : Key) : Bool :=
  match a.scalar, b.scalar with
  | .float x, .float y => x.numEq y || (x.isNaN && y.isNaN && a.origin == b.origin)
  | x, y => x.sameKey y

instance sameBEq : BEq Key := ⟨Key.same⟩

def key (i : Nat) : Convert Key := do
  match ← datum i with
  | .node _ => throw .content
  | .scalar k => match (← nodeAt i).content with
    | .scalar text => return ⟨k, if isNotANumber text then none else some i⟩
    | _ => return ⟨k, some i⟩

def mapEntries (fuel : Nat) (i : Nat) : Convert (List (Scalar × Datum)) := do
  flatten fuel i 0 []
  let mut found : List (Key × Datum) := []
  for (k, v) in ← entriesOf i do
    let k ← key k
    let d ← datum v
    found := Ordered.put k d found
  return found.map (fun e => (e.1.scalar, e.2))

def pairsOf (items : List Nat) : Convert (List (Datum × Datum)) :=
  items.mapM (fun i => do
    match (← nodeAt i).content with
    | .mapping [(k, v)] =>
      let k ← datum k
      return (k, ← datum v)
    | _ => throw .content)

def partsOf (fuel : Nat) (i : Nat) : Convert Parts := do
  let n ← nodeAt i
  if n.tag = standardTag "map" then return .map (← mapEntries fuel i)
  else if n.tag = standardTag "set" then return .set ((← mapEntries fuel i).map Prod.fst)
  else match n.content with
    | .sequence items =>
      if n.tag = standardTag "seq" then return .list (← items.mapM datum)
      else return .pairs (← pairsOf items)
    | _ => throw .content

def settle (fuel : Nat) : Nat → Convert Unit
  | 0 => throw .content
  | n + 1 => do
    let s ← get
    match s.waiting with
    | [] => return
    | i :: r =>
      set { s with waiting := r, done := (i, .list []) :: s.done }
      let parts ← partsOf fuel i
      modify (fun s => { s with done := (i, parts) :: s.done })
      settle fuel n

end Convert

def Datum.toValue (done : List (Nat × Parts)) : Nat → Datum → Value
  | _, .scalar s => .scalar s
  | 0, .node i => match done.lookup i with
    | some (.map _) => .map []
    | some (.set _) => .set []
    | _ => .list []
  | depth + 1, .node i => match done.lookup i with
    | some (.list xs) => .list (xs.map (toValue done depth))
    | some (.pairs xs) =>
      .list (xs.map (fun p => .tuple [toValue done depth p.1, toValue done depth p.2]))
    | some (.set xs) => .set xs
    | some (.map es) => .map (es.map (fun e => (e.1, toValue done depth e.2)))
    | none => .list []

def depth : Nat := 4

def load (source : Source) : Except Error (Option Value) := do
  let g ← Graph.ofSource source
  match g.root with
  | none => return none
  | some root =>
    let fuel := (g.nodes.size + source.readable.length + 4) * (g.nodes.size + source.readable.length + 4)
    let convert : Convert Datum := do
      let d ← Convert.datum root
      Convert.settle fuel (g.nodes.size + 2)
      return d
    let (d, s) ← convert.run ⟨g.nodes, [], []⟩
    return some (d.toValue s.done depth)

end AlertRelay.Yaml
