import AlertRelay.Yaml.Tag
import AlertRelay.Yaml.Tokens

/-! The nodes of a document. A node is known by its number; an alias is the number of the node
that its anchor names, so nodes can be shared and can contain themselves. Every node has
a tag, written or from its form. A text holds at most one document. -/
namespace AlertRelay.Yaml

inductive Content
  | scalar (text : List Nat)
  | sequence (items : List Nat)
  | mapping (entries : List (Nat × Nat))

structure Node where
  tag : String
  content : Content

structure Builder where
  tokens : Tokens
  nodes : Array Node
  level : Nat
  anchors : List (String × Nat)
  handles : List (String × String)

abbrev Build := StateT Builder (Except Error)

namespace Build

def peek : Build Token := fun b => do
  let (k, t) ← b.tokens.peek
  return (k, { b with tokens := t })

def drop : Build Unit := modify (fun b => { b with tokens := b.tokens.drop })

def add (n : Node) : Build Nat := do
  let b ← get
  set { b with nodes := b.nodes.push n }
  return b.nodes.size

def levelLimit : Nat := 490

def fill (i : Nat) (c : Content) : Build Unit :=
  modify (fun b =>
    { b with nodes := b.nodes.modify i (fun n => ⟨n.tag, c⟩), level := b.level - 1 })

def emptyNode : Build Nat := add ⟨Plain.tag [], .scalar []⟩

structure Properties where
  anchor : Option String
  tag : Option TagName

def properties : Build Properties := do
  match ← peek with
  | .anchor a =>
    drop
    match ← peek with
    | .tag t => drop; return ⟨some a, some t⟩
    | _ => return ⟨some a, none⟩
  | .tag t =>
    drop
    match ← peek with
    | .anchor a => drop; return ⟨some a, some t⟩
    | _ => return ⟨none, some t⟩
  | _ => return ⟨none, none⟩

/-- The tag in full. A handle must be known. The tag of one mark leaves the form to decide. -/
def fullTag : Option TagName → Build (Option String)
  | none => return none
  | some ⟨none, s⟩ => return if s = "!" then none else some s
  | some ⟨some h, s⟩ => do
    match (← get).handles.lookup h with
    | some a => return if a ++ s = "!" then none else some (a ++ s)
    | none => throw .form

def checkAnchor : Option String → Build Unit
  | none => return
  | some a => do
    if ((← get).anchors.lookup a).isSome then throw .reference

def bindAnchor (a : Option String) (i : Nat) : Build Unit :=
  match a with
  | none => return
  | some a => modify (fun b => { b with anchors := (a, i) :: b.anchors })

structure Position where
  block : Bool
  indentless : Bool

def endsBlockPart : Token → Bool
  | .key | .value | .blockEnd => true
  | _ => false
def endsBlockEntry : Token → Bool
  | .blockEntry | .blockEnd => true
  | _ => false
def endsIndentlessEntry : Token → Bool
  | .blockEntry | .key | .value | .blockEnd => true
  | _ => false
def endsFlowKey : Token → Bool
  | .value | .flowEntry | .flowMappingEnd => true
  | _ => false
def endsFlowValue : Token → Bool
  | .flowEntry | .flowMappingEnd => true
  | _ => false
def endsPairKey : Token → Bool
  | .value | .flowEntry | .flowSequenceEnd => true
  | _ => false
def endsPairValue : Token → Bool
  | .flowEntry | .flowSequenceEnd => true
  | _ => false

/-- A collection is numbered before its parts, so that they can refer to it. -/
def collection (anchor : Option String) (tag : String) : Build Nat := do
  checkAnchor anchor
  let i ← add ⟨tag, .sequence []⟩
  bindAnchor anchor i
  let b ← get
  if b.level = levelLimit then throw .tooDeep
  set { b with level := b.level + 1 }
  return i

mutual
def node : Nat → Position → Build Nat
  | 0, _ => throw .form
  | fuel + 1, at_ => do
    match ← peek with
    | .reference name =>
      drop
      match (← get).anchors.lookup name with
      | some i => return i
      | none => throw .reference
    | _ =>
      let p ← properties
      let tag ← fullTag p.tag
      match ← peek with
      | .blockEntry =>
        if at_.indentless then
          let i ← collection p.anchor (tag.getD (standardTag "seq"))
          fill i (.sequence (← indentlessEntries fuel))
          return i
        else absent p tag
      | .scalar text plain =>
        drop
        checkAnchor p.anchor
        let form := if (plain && p.tag.isNone) || (p.tag.isSome && tag.isNone)
          then Plain.tag (text.map Char.ofNat) else standardTag "str"
        let i ← add ⟨tag.getD form, .scalar text⟩
        bindAnchor p.anchor i
        return i
      | .flowSequenceStart =>
        let i ← collection p.anchor (tag.getD (standardTag "seq"))
        drop
        fill i (.sequence (← flowEntries fuel true))
        return i
      | .flowMappingStart =>
        let i ← collection p.anchor (tag.getD (standardTag "map"))
        drop
        fill i (.mapping (← flowPairs fuel true))
        return i
      | .blockSequenceStart =>
        if at_.block then
          let i ← collection p.anchor (tag.getD (standardTag "seq"))
          drop
          fill i (.sequence (← blockEntries fuel))
          return i
        else absent p tag
      | .blockMappingStart =>
        if at_.block then
          let i ← collection p.anchor (tag.getD (standardTag "map"))
          drop
          fill i (.mapping (← blockPairs fuel))
          return i
        else absent p tag
      | _ => absent p tag
def absent (p : Properties) (tag : Option String) : Build Nat := do
  if p.anchor.isNone && p.tag.isNone then throw .form
  checkAnchor p.anchor
  let i ← add ⟨tag.getD (Plain.tag []), .scalar []⟩
  bindAnchor p.anchor i
  return i
def nodeUnless (ends : Token → Bool) : Nat → Position → Build Nat
  | 0, _ => throw .form
  | fuel + 1, at_ => do
    if ends (← peek) then emptyNode else node fuel at_
def blockEntries : Nat → Build (List Nat)
  | 0 => throw .form
  | fuel + 1 => do
    match ← peek with
    | .blockEntry =>
      drop
      let i ← nodeUnless endsBlockEntry fuel ⟨true, false⟩
      return i :: (← blockEntries fuel)
    | .blockEnd => drop; return []
    | _ => throw .form
/-- Entries at the indentation of the mapping they are a value of. -/
def indentlessEntries : Nat → Build (List Nat)
  | 0 => throw .form
  | fuel + 1 => do
    match ← peek with
    | .blockEntry =>
      drop
      let i ← nodeUnless endsIndentlessEntry fuel ⟨true, false⟩
      return i :: (← indentlessEntries fuel)
    | _ => return []
def blockPairs : Nat → Build (List (Nat × Nat))
  | 0 => throw .form
  | fuel + 1 => do
    match ← peek with
    | .key =>
      drop
      let k ← nodeUnless endsBlockPart fuel ⟨true, true⟩
      let v ← blockValue fuel
      return (k, v) :: (← blockPairs fuel)
    | .blockEnd => drop; return []
    | _ => throw .form
def blockValue : Nat → Build Nat
  | 0 => throw .form
  | fuel + 1 => do
    match ← peek with
    | .value => drop; nodeUnless endsBlockPart fuel ⟨true, true⟩
    | _ => emptyNode
def flowEntries : Nat → Bool → Build (List Nat)
  | 0, _ => throw .form
  | fuel + 1, isFirst => do
    match ← peek with
    | .flowSequenceEnd => drop; return []
    | k =>
      if !isFirst then
        match k with
        | .flowEntry => drop
        | _ => throw .form
      match ← peek with
      | .key =>
        let i ← collection none (standardTag "map")
        drop
        let a ← nodeUnless endsPairKey fuel ⟨false, false⟩
        let v ← flowValue endsPairValue fuel
        fill i (.mapping [(a, v)])
        return i :: (← flowEntries fuel false)
      | .flowSequenceEnd => drop; return []
      | _ =>
        let i ← node fuel ⟨false, false⟩
        return i :: (← flowEntries fuel false)
def flowValue (ends : Token → Bool) : Nat → Build Nat
  | 0 => throw .form
  | fuel + 1 => do
    match ← peek with
    | .value => drop; nodeUnless ends fuel ⟨false, false⟩
    | _ => emptyNode
def flowPairs : Nat → Bool → Build (List (Nat × Nat))
  | 0, _ => throw .form
  | fuel + 1, isFirst => do
    match ← peek with
    | .flowMappingEnd => drop; return []
    | k =>
      if !isFirst then
        match k with
        | .flowEntry => drop
        | _ => throw .form
      match ← peek with
      | .key =>
        drop
        let a ← nodeUnless endsFlowKey fuel ⟨false, false⟩
        let v ← flowValue endsFlowValue fuel
        return (a, v) :: (← flowPairs fuel false)
      | .flowMappingEnd => drop; return []
      | _ =>
        let a ← node fuel ⟨false, false⟩
        let v ← emptyNode
        return (a, v) :: (← flowPairs fuel false)
end

def standardHandles : List (String × String) := [("!", "!"), ("!!", "tag:yaml.org,2002:")]

/-- The directives before a document: at most one version, which must be a first one, and each
handle once. -/
def directives : Nat → Bool → List (String × String) → Build (List (String × String))
  | 0, _, _ => throw .form
  | fuel + 1, versioned, handles => do
    match ← peek with
    | .directive d =>
      drop
      match d with
      | .version major =>
        if versioned || major != 1 then throw .form
        directives fuel true handles
      | .handle h a =>
        if (handles.lookup h).isSome then throw .form
        directives fuel versioned (handles ++ [(h, a)])
      | .other => directives fuel versioned handles
    | _ => return handles ++ standardHandles

def dropDocumentEnds : Nat → Build Unit
  | 0 => return
  | fuel + 1 => do
    match ← peek with
    | .documentEnd => drop; dropDocumentEnds fuel
    | _ => return

def explicitStart (fuel : Nat) : Build Bool := do
  dropDocumentEnds fuel
  match ← peek with
  | .textEnd => return false
  | _ =>
    let handles ← directives fuel false []
    modify (fun b => { b with handles })
    match ← peek with
    | .documentStart => drop; return true
    | _ => throw .form

def content (fuel : Nat) : Build Nat := do
  match ← peek with
  | .directive _ | .documentStart | .documentEnd | .textEnd => emptyNode
  | _ => node fuel ⟨true, false⟩

def document (fuel : Nat) : Build (Option Nat) := do
  let isExplicit ← match ← peek with
    | .directive _ | .documentStart | .textEnd => explicitStart fuel
    | _ => pure false
  let root ← match ← peek, isExplicit with
    | .textEnd, false => pure none
    | _, true => some <$> content fuel
    | _, false => some <$> node fuel ⟨true, false⟩
  if root.isSome then
    match ← peek with
    | .documentEnd => drop
    | _ => pure ()
    if ← explicitStart fuel then throw .reference
  return root

end Build

structure Graph where
  nodes : Array Node
  root : Option Nat

def Graph.ofSource (s : Source) : Except Error Graph := do
  let fuel := 8 * s.readable.length + 64
  let (root, b) ← (Build.document fuel).run ⟨.start s, #[], 0, [], Build.standardHandles⟩
  return ⟨b.nodes, root⟩

end AlertRelay.Yaml
