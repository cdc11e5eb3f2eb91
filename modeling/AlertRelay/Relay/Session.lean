import AlertRelay.Relay

/-! A run of steps on a relay. Rules and handlers are made under names; a name that is given
again stands for the new one, whichever it is, while handlers keep the rule they were made
with. -/
namespace AlertRelay.Relay

inductive Subject
  | named (id : Text)
  | item (i : Item)

inductive Step
  | config
  | update (p : Proposal)
  | defaultRule (id : Text)
  | rule (id : Text) (data : Raw)
  | testRule (id : Text)
  | testRuleOf (id : Text) (data : Raw)
  | set (id field : Text) (v : Value)
  | append (id field : Text) (v : Value)
  | view (id : Text)
  | handler (id draft : Text) (context : Fields Value)
  | handle (id : Text) (event : Raw)
  | alert (o : Order)
  | test (subject : Subject)
  | start
  | close
  | enter
  | exit
  | drop

/-- What a step answers. A rule is shown with the values it had at that step. -/
inductive Reply
  | done
  | entered
  | endpoint (e : Endpoint)
  | draft (serial : Nat) (versions : Part → Nat)

def named (s : Relay) (id : Text) : Except Problem Named :=
  match Fields.get? id s.names with
  | some n => .ok n
  | none => .error (.misuse (.noKey (.text id)))

def handlerType : String := "AlertmanagerHandler"

def ruleOf (s : Relay) (id field : Text) : Except Problem Nat := do
  match ← s.named id with
  | .rule draft => return draft
  | .handler _ => throw (.misuse (.noAttribute handlerType field))

def draftAt (s : Relay) (serial : Nat) : Except Problem Draft :=
  match s.drafts[serial]? with
  | some d => .ok d
  | none => .error (.misuse .outOfRange)

def shown (s : Relay) (serial : Nat) : Except Problem Reply :=
  (s.draftAt serial).map (fun d => .draft serial d.versions)

def handlerOf (s : Relay) (id : Text) : Except Problem Handler := do
  match ← s.named id with
  | .handler h => return h
  | .rule draft => throw (.misuse (.noAttribute (← s.draftAt draft).typeName "handle"))

def addDraft (s : Relay) (id : Text) (d : Draft) : Relay :=
  { s with drafts := s.drafts ++ [d], names := Fields.put id (.rule s.drafts.length) s.names }

def quiet (s : Relay) (r : Except Problem (Relay × Reply)) : Outcome Relay Reply :=
  match r with
  | .ok (s, reply) => ⟨s, .ok reply, [], []⟩
  | .error p => ⟨s, .error p, [], []⟩

def made (s : Relay) (id : Text) (d : Checked Draft) : Outcome Relay Reply :=
  s.quiet (do
    let d ← Problem.ofChecked d
    return (s.addDraft id d, .draft s.drafts.length d.versions))

def change (s : Relay) (id field : Text) (f : Draft → Except Misuse Draft) : Outcome Relay Reply :=
  s.quiet (do
    let serial ← s.ruleOf id field
    let d ← s.draftAt serial
    let d ← Problem.ofMisused (f d)
    return ({ s with drafts := s.drafts.set serial d }, .draft serial d.versions))

def delivery (o : Outcome Relay Unit) : Outcome Relay Reply :=
  ⟨o.state, o.result.map (fun _ => .done), o.logs, o.requests⟩

def fails (s : Relay) (p : Problem) : Outcome Relay Reply := ⟨s, .error p, [], []⟩

def subject (s : Relay) : Subject → Except Problem Draft
  | .named id => do
    match ← s.named id with
    | .rule draft => s.draftAt draft
    | .handler _ => throw (.adapter (.optionsType handlerType))
  | .item .testRule => .ok (.ofTestRule .default)
  | .item i => do
    let _ ← i.make s.next
    throw (.adapter (.optionsType i.typeName))

def step (s : Relay) : Step → Outcome Relay Reply
  | .config => ⟨s, .ok (.endpoint s.endpoint), [], []⟩
  | .update p =>
    let o := s.update p
    ⟨o.state, o.result.map (fun _ => .endpoint o.state.endpoint), o.logs, o.requests⟩
  | .defaultRule id => s.made id (.ok (.ofRule (Relay.defaultRule s.endpoint)))
  | .rule id data => s.made id ((Rule.check data).map .ofRule)
  | .testRule id => s.made id (.ok (.ofTestRule (Relay.testRule s.endpoint)))
  | .testRuleOf id data => s.made id ((TestRule.check data).map .ofTestRule)
  | .set id field v => s.change id field (fun d => d.set field v)
  | .append id field v => s.change id field (fun d => d.append field v)
  | .view id => s.quiet (do return (s, ← s.shown (← s.ruleOf id (Part.name .room))))
  | .handler id draft context => s.quiet (do
      let serial ← s.ruleOf draft (Part.name .room)
      let sink ← Problem.ofMisused (handlerSink context)
      return ({ s with names := Fields.put id (.handler ⟨serial, sink⟩) s.names }, ← s.shown serial))
  | .handle id event =>
    match s.handlerOf id, Problem.ofChecked (Event.check event) with
    | .error p, _ => s.fails p
    | .ok _, .error p => s.fails p
    | .ok h, .ok e => match s.draftAt h.draft with
      | .error p => s.fails p
      | .ok d => delivery (s.handle h.sink d e)
  | .alert o => delivery (s.alert o)
  | .test subject => match s.subject subject with
    | .error p => s.fails p
    | .ok d => delivery (s.test d)
  | .start => ⟨s, .ok .done, [], []⟩
  | .close => ⟨s.setLink s.link.close, .ok .done, [], []⟩
  | .enter => ⟨s, .ok .entered, [], []⟩
  | .exit => ⟨s.setLink s.link.close, .ok .done, [], []⟩
  | .drop => match s.link.drop? with
    | some l => ⟨s.setLink l, .ok .done, [], []⟩
    | none => s.fails (.misuse .outOfRange)

def run (s : Relay) : List Step → List (Outcome Relay Reply)
  | [] => []
  | t :: r => s.step t :: (s.step t).state.run r

def after (s : Relay) : List Step → Relay
  | [] => s
  | t :: r => (s.step t).state.after r

end AlertRelay.Relay
