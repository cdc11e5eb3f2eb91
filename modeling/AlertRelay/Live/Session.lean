import AlertRelay.Live

/-! A run of steps on the endpoint in force, with snapshots kept by name. What a step brings is made
first, from its description; what is done with it then is a move of the cell, which only
knows made things. -/
namespace AlertRelay.Live

inductive Move
  | current
  | hold (id : Text)
  | held (id : Text)
  | store (i : Issued)
  | update (b : Batch)
  | assign (field : Text) (v : Value)

inductive Step
  | current
  | hold (id : Text)
  | held (id : Text)
  | store (data : Raw)
  | update (p : Proposal)
  | assign (field : Text) (v : Value := .null)

def Step.make (next : Nat) : Step → Except Problem (Move × Nat)
  | .current => .ok (.current, next)
  | .hold id => .ok (.hold id, next)
  | .held id => .ok (.held id, next)
  | .store d => do
    let e ← Problem.ofChecked (Endpoint.check d)
    return (.store ⟨next, e⟩, next + 1)
  | .update p => (p.make next).map (fun b => (.update b.1, b.2))
  | .assign field v => .ok (.assign field v, next)

inductive Reply
  | current (e : Endpoint)
  | held (e : Endpoint) (isCurrent : Bool)

structure Answer where
  result : Except Problem Reply
  logs : List Log.Entry

structure Cell where
  live : Live
  snapshots : Fields Issued

namespace Cell

def start (i : Issued) : Cell := ⟨⟨i⟩, []⟩

def shown (c : Cell) : Reply := .current c.live.current.endpoint

def perform (c : Cell) : Move → Except Problem (Cell × Reply × List Log.Entry)
  | .current => .ok (c, c.shown, [])
  | .hold id =>
    let c := { c with snapshots := Fields.put id c.live.current c.snapshots }
    .ok (c, c.shown, [])
  | .held id => match Fields.get? id c.snapshots with
    | some i => .ok (c, .held i.endpoint (i.serial == c.live.current.serial), [])
    | none => .error (.misuse (.noKey (.text id)))
  | .store i =>
    let c := { c with live := c.live.store i }
    .ok (c, c.shown, [])
  | .update b => do
    let (live, entry) ← c.live.update b
    let c := { c with live }
    return (c, c.shown, [entry])
  | .assign field v => do
    c.live.assign field v
    return (c, c.shown, [])

def move (c : Cell) (m : Move) : Cell × Answer :=
  match c.perform m with
  | .ok (d, reply, logs) => (d, ⟨.ok reply, logs⟩)
  | .error p => (c, ⟨.error p, []⟩)

def after (c : Cell) : List Move → Cell
  | [] => c
  | m :: r => (c.move m).1.after r

end Cell

structure Session where
  cell : Cell
  next : Nat

namespace Session

def start (data : Raw) : Except Problem Session := do
  let e ← Problem.ofChecked (Endpoint.check data)
  return ⟨.start ⟨0, e⟩, 1⟩

/-- The effect of a step. Where nothing can be made of it, there is none. -/
def step (s : Session) (t : Step) : Session × Answer :=
  match t.make s.next with
  | .ok (m, next) => (⟨(s.cell.move m).1, next⟩, (s.cell.move m).2)
  | .error p => (s, ⟨.error p, []⟩)

def run (s : Session) : List Step → List Answer
  | [] => []
  | t :: r => (s.step t).2 :: (s.step t).1.run r

def after (s : Session) : List Step → Session
  | [] => s
  | t :: r => (s.step t).1.after r

end Session
end AlertRelay.Live
