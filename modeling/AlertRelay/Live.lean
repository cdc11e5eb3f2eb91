import AlertRelay.Settings
import AlertRelay.Log.Entry
import AlertRelay.Problem

/-! The endpoint in force. It is replaced as a whole, by a reload batch that holds exactly
one endpoint; any other batch changes nothing. Each endpoint that is made gets a
number, so that two equal ones can be told apart. -/
namespace AlertRelay

structure Issued where
  serial : Nat
  endpoint : Endpoint
deriving DecidableEq

inductive Candidate
  | endpoint (i : Issued)
  | other (type : String)

inductive Batch
  | members (cs : List Candidate)
  | raw (v : Value)

namespace Batch

def size (b : Batch) : Except Misuse Nat :=
  match b with
  | .members cs => .ok cs.length
  | .raw v => match v.size? with
    | some n => .ok n
    | none => .error (.noSize v.typeName)

def first (b : Batch) : Except Misuse Candidate :=
  match b with
  | .members cs => match cs with
    | c :: _ => .ok c
    | [] => .error .outOfRange
  -- A map is asked for the key zero.
  | .raw (.map es) => match Ordered.get? (Scalar.int 0) es with
    | some v => .ok (.other v.typeName)
    | none => .error (.noKey (.int 0))
  | .raw (.set _) => .error (.notSubscriptable "set")
  | .raw v => match v.members? with
    | some (m :: _) => .ok (.other m.typeName)
    | _ => .error .outOfRange

def sole (b : Batch) : Except Problem Issued := do
  let n ← Problem.ofMisused b.size
  if n = 1 then
    match ← Problem.ofMisused b.first with
    | .endpoint i => .ok i
    | .other type => .error (.adapter (.configType "AlertmanagerConfig" type))
  else .error (.adapter (.cardinality (.int n)))

end Batch

structure Live where
  current : Issued

namespace Live

def store (_ : Live) (i : Issued) : Live := ⟨i⟩

def updated (e : Endpoint) : Log.Entry :=
  ⟨.info, "alertmanager_config_updated", [("enabled", .bool e.enabled), ("room", .text e.room)]⟩

def update (l : Live) (b : Batch) : Except Problem (Live × Log.Entry) := do
  let i ← b.sole
  return (l.store i, updated i.endpoint)

/-- No field of an endpoint can be set. Names that start with an underscore are not fields: what every
object has by itself stays, and a value under any other such name is looked at by nothing. -/
def assign (_ : Live) (field : Text) (v : Value) : Except Problem Unit :=
  match Innate.ofName? field with
  | some i => .error (.misuse (i.refuseSet "AlertmanagerConfig" v))
  | none =>
    if field.startsWith "_" then .ok ()
    else .error (.invalid [⟨[.key field.legible], .frozen⟩])

end Live

inductive Item
  | endpoint (data : Raw)
  | narrowed
  | testRule
  | object (type : String)
  | value (v : Value)

namespace Item

def typeName : Item → String
  | .endpoint _ => "AlertmanagerConfig"
  | .narrowed => "SubConfig"
  | .testRule => "TestOptions"
  | .object type => type
  | .value v => v.typeName

def make (next : Nat) : Item → Except Problem (Candidate × Nat)
  | .endpoint d => do
    let e ← Problem.ofChecked (Endpoint.check d)
    return (.endpoint ⟨next, e⟩, next + 1)
  | .narrowed => .ok (.endpoint ⟨next, .default⟩, next + 1)
  | i => .ok (.other i.typeName, next)

def makeAll (next : Nat) : List Item → Except Problem (List Candidate × Nat)
  | [] => .ok ([], next)
  | i :: r => do
    let (c, next) ← i.make next
    let (cs, next) ← makeAll next r
    return (c :: cs, next)

end Item

inductive Proposal
  | items (is : List Item)
  | raw (v : Value)

/-- Makes the batch; every item is made before any is looked at. -/
def Proposal.make (next : Nat) : Proposal → Except Problem (Batch × Nat)
  | .items is => (Item.makeAll next is).map (fun p => (.members p.1, p.2))
  | .raw v => .ok (.raw v, next)

end AlertRelay
