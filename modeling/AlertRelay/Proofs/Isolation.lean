import AlertRelay.Proofs.Paths
import AlertRelay.Proofs.Posts
import AlertRelay.Proofs.Upkeep

/-! Rules in the hands of the host are kept apart. What is set in one rule, or appended to it, is
seen in that rule only: a run with the edit and a run without it hold the same endpoint, names
and other rules ever after, and they post the same but for what is delivered from that rule. -/
namespace AlertRelay

inductive Edit
  | set (field : Text) (v : Value)
  | append (field : Text) (v : Value)

namespace Edit

def apply (d : Draft) : Edit → Except Misuse Draft
  | set field v => d.set field v
  | append field v => d.append field v

/-- The rule after an edit. One that is refused leaves it. -/
def onto (c : Edit) (d : Draft) : Draft := (c.apply d).toOption.getD d

def step (c : Edit) (id : Text) : Relay.Step :=
  match c with
  | set field v => .set id field v
  | append field v => .append id field v

end Edit

namespace Draft

theorem set_isTest (d d₁ : Draft) (name : Text) (v : Value) (made : d.set name v = .ok d₁) :
    d₁.isTest = d.isTest := by
  unfold Draft.set at made
  split at made
  · cases made
    rfl
  · split at made
    · cases made
    · split at made
      · cases made
        rfl
      · cases made

theorem append_isTest (d d₁ : Draft) (name : Text) (v : Value) (made : d.append name v = .ok d₁) :
    d₁.isTest = d.isTest := by
  unfold Draft.append at made
  split at made
  · rename_i p _
    cases grown : (d.slot p).append v with
    | error m =>
      rw [grown] at made
      cases made
    | ok slot =>
      rw [grown] at made
      cases made
      rfl
  · split at made
    · cases made
    · rename_i hidden _ _
      cases grown : hidden.append v with
      | error m =>
        rw [grown] at made
        cases made
      | ok slot =>
        rw [grown] at made
        cases made
        rfl
    · cases made

end Draft

theorem Edit.isTest_onto (c : Edit) (d : Draft) : (c.onto d).isTest = d.isTest := by
  unfold Edit.onto
  cases made : c.apply d with
  | error m => rfl
  | ok d₁ =>
    cases c with
    | set field v => exact d.set_isTest d₁ field v made
    | append field v => exact d.append_isTest d₁ field v made

namespace Relay

/-- Two relays with the same endpoint and names, and the same rules but for the one numbered `k`,
which is of the same kind. Their sessions and the responses left for them may differ. -/
structure Apart (k : Nat) (s t : Relay) : Prop where
  live : t.live = s.live
  next : t.next = s.next
  names : t.names = s.names
  others : ∀ j, j ≠ k → t.drafts[j]? = s.drafts[j]?
  kinds : t.drafts.map Draft.isTest = s.drafts.map Draft.isTest
  there : k < s.drafts.length

/-- The step works on the rule numbered `k`, or delivers from it. -/
def Concerns (s : Relay) (k : Nat) : Step → Prop
  | .set id _ _ | .append id _ _ | .view id | .handler _ id _ | .test (.named id) =>
    Fields.get? id s.names = some (.rule k)
  | .handle id _ => ∃ sink, Fields.get? id s.names = some (.handler ⟨k, sink⟩)
  | _ => False

/-- The name that a step gives to what it makes. -/
def Step.gives? : Step → Option Text
  | .defaultRule id | .rule id _ | .testRule id | .testRuleOf id _ | .handler id _ _ => some id
  | _ => none

/-- Neither a delivery nor a step whose end depends on the sessions. -/
def Step.isSettled : Step → Bool
  | .alert _ | .handle _ _ | .test _ | .drop => false
  | _ => true

theorem ruleOf_named (s : Relay) (id field : Text) (k : Nat)
    (named : Fields.get? id s.names = some (.rule k)) : s.ruleOf id field = .ok k := by
  simp only [ruleOf, Relay.named, named, bind, Except.bind]
  rfl

theorem ruleOf_names (s t : Relay) (names : t.names = s.names) (id field : Text) :
    t.ruleOf id field = s.ruleOf id field := by
  simp only [ruleOf, Relay.named, names]

/-- An edit changes its own rule, and nothing else. -/
theorem edit_named (s : Relay) (c : Edit) (id : Text) (k : Nat)
    (named : Fields.get? id s.names = some (.rule k)) :
    s.step (c.step id) =
      ⟨{ s with drafts := s.drafts.modify k c.onto },
        (s.draftAt k).bind (fun d => (Problem.ofMisused (c.apply d)).map (fun d => .draft k d.versions)),
        [], []⟩ := by
  have opened : ∀ field, s.change id field (fun d => c.apply d) =
      ⟨{ s with drafts := s.drafts.modify k c.onto },
        (s.draftAt k).bind (fun d => (Problem.ofMisused (c.apply d)).map (fun d => .draft k d.versions)),
        [], []⟩ := by
    intro field
    simp only [change, s.ruleOf_named id field k named, bind, Except.bind, draftAt,
      List.modify_eq_set_getElem?]
    cases found : s.drafts[k]? with
    | none => rfl
    | some d =>
      simp only [Option.map_eq_map, Option.map_some, Option.getD_some, Edit.onto]
      cases c.apply d with
      | ok d₁ => rfl
      | error m =>
        obtain ⟨bound, here⟩ := List.getElem?_eq_some_iff.mp found
        have same : s.drafts.set k d = s.drafts := here ▸ List.set_getElem_self bound
        simp only [Except.toOption, Option.getD_none, same]
        rfl
  cases c with
  | set field v => exact opened field
  | append field v => exact opened field

theorem edit_unnamed (s : Relay) (c : Edit) (id : Text)
    (unnamed : ∀ k, Fields.get? id s.names ≠ some (.rule k)) :
    ∃ p, ∀ t : Relay, t.names = s.names → t.step (c.step id) = t.fails p := by
  have opened : ∀ field, ∃ p, ∀ t : Relay, t.names = s.names →
      t.change id field (fun d => c.apply d) = t.fails p := by
    intro field
    cases found : s.ruleOf id field with
    | ok k => exact absurd (s.ruleOf_ok id field k found) (unnamed k)
    | error p =>
      refine ⟨p, fun t names => ?_⟩
      simp only [change, s.ruleOf_names t names, found, bind, Except.bind]
      rfl
  cases c with
  | set field v => exact opened field
  | append field v => exact opened field

theorem view_eq (s : Relay) (id : Text) :
    s.step (.view id) = ⟨s, (s.ruleOf id (Part.name .room)).bind s.shown, [], []⟩ := by
  simp only [step, bind]
  cases s.ruleOf id (Part.name .room) with
  | error p => rfl
  | ok k =>
    simp only [Except.bind]
    cases s.shown k <;> rfl

/-- A handler is bound to the number of a rule, whatever the rule holds. -/
theorem handler_eq (s : Relay) (name id : Text) (context : Fields Value) :
    s.step (.handler name id context) =
      match s.ruleOf id (Part.name .room), Problem.ofMisused (handlerSink context) with
      | .error p, _ => s.fails p
      | .ok _, .error p => s.fails p
      | .ok i, .ok sink => match s.draftAt i with
        | .error p => s.fails p
        | .ok d => ⟨{ s with names := Fields.put name (.handler ⟨i, sink⟩) s.names },
            .ok (.draft i d.versions), [], []⟩ := by
  simp only [step, shown, bind, Except.bind]
  cases s.ruleOf id (Part.name .room) with
  | error p => rfl
  | ok i =>
    cases Problem.ofMisused (handlerSink context) with
    | error p => rfl
    | ok sink =>
      dsimp only
      cases s.draftAt i <;> rfl

namespace Apart

variable {k : Nat} {s t : Relay}

theorem refl (s : Relay) (there : k < s.drafts.length) : Apart k s s :=
  ⟨rfl, rfl, rfl, fun _ _ => rfl, rfl, there⟩

theorem length (h : Apart k s t) : t.drafts.length = s.drafts.length := by
  simpa using congrArg List.length h.kinds

theorem setLink (h : Apart k s t) (l m : Link) : Apart k (s.setLink l) (t.setLink m) :=
  ⟨h.live, h.next, h.names, h.others, h.kinds, h.there⟩

theorem addDraft (h : Apart k s t) (id : Text) (d : Draft) : Apart k (s.addDraft id d) (t.addDraft id d) := by
  refine ⟨h.live, h.next, ?_, fun j other => ?_, ?_, ?_⟩
  · simp only [Relay.addDraft, h.names, h.length]
  · simp only [Relay.addDraft, List.getElem?_append, h.length, h.others j other]
  · simp only [Relay.addDraft, List.map_append, h.kinds]
  · simp only [Relay.addDraft, List.length_append]
    exact Nat.lt_add_right _ h.there

theorem kinds_modify (l : List Draft) (i : Nat) (c : Edit) :
    (l.modify i c.onto).map Draft.isTest = l.map Draft.isTest := by
  apply List.ext_getElem?
  intro j
  simp only [List.getElem?_map, List.getElem?_modify]
  cases l[j]? with
  | none => rfl
  | some d =>
    simp only [Option.map_eq_map, Option.map_some]
    split
    · rw [c.isTest_onto]
    · rfl

theorem modify (h : Apart k s t) (i : Nat) (c : Edit) :
    Apart k { s with drafts := s.drafts.modify i c.onto } { t with drafts := t.drafts.modify i c.onto } := by
  refine ⟨h.live, h.next, h.names, fun j other => ?_, ?_, ?_⟩
  · simp only [List.getElem?_modify, h.others j other]
  · simp only [kinds_modify, h.kinds]
  · simpa only [List.length_modify] using h.there

theorem of_edit (s : Relay) (k : Nat) (c : Edit) (there : k < s.drafts.length) :
    Apart k s { s with drafts := s.drafts.modify k c.onto } := by
  refine ⟨rfl, rfl, rfl, fun j other => ?_, kinds_modify _ _ _, there⟩
  exact List.getElem?_modify_ne _ _ (Ne.symm other)

theorem attend (h : Apart k s t) (x y : Except Problem Attempt) :
    Apart k (s.attend x).state (t.attend y).state := by
  obtain ⟨l, hl⟩ := s.attend_state x
  obtain ⟨m, hm⟩ := t.attend_state y
  rw [hl, hm]
  exact h.setLink l m

end Apart

/-- The same outcome, which shows no rule numbered `k`. -/
structure Unaffected (k : Nat) (o q : Outcome Relay Reply) : Prop where
  result : q.result = o.result
  logs : q.logs = o.logs
  elsewhere : ∀ j versions, o.result = .ok (.draft j versions) → j ≠ k

namespace Apart

variable {k : Nat} {s t : Relay}

theorem draftAt (h : Apart k s t) (j : Nat) (other : j ≠ k) : t.draftAt j = s.draftAt j := by
  simp only [Relay.draftAt, h.others j other]

theorem fails (p : Problem) : Unaffected k (s.fails p) (t.fails p) :=
  ⟨rfl, rfl, fun _ _ shown => by cases shown⟩

theorem made (h : Apart k s t) (id : Text) (c : Checked Draft) :
    Apart k (s.made id c).state (t.made id c).state ∧ Unaffected k (s.made id c) (t.made id c) := by
  cases c with
  | error is => exact ⟨h, fails (.invalid is)⟩
  | ok d =>
    refine ⟨h.addDraft id d, ?_, rfl, fun j versions shown => ?_⟩
    · exact congrArg (fun n => Except.ok (Reply.draft n d.versions)) h.length
    · cases shown
      exact Ne.symm (Nat.ne_of_lt h.there)

theorem edit (h : Apart k s t) (c : Edit) (id : Text) :
    Apart k (s.step (c.step id)).state (t.step (c.step id)).state ∧
    (Fields.get? id s.names ≠ some (.rule k) →
      Unaffected k (s.step (c.step id)) (t.step (c.step id))) := by
  by_cases rule : ∃ i, Fields.get? id s.names = some (.rule i)
  · obtain ⟨i, named⟩ := rule
    rw [s.edit_named c id i named, t.edit_named c id i (h.names ▸ named)]
    refine ⟨h.modify i c, fun unnamed => ?_⟩
    have other : i ≠ k := fun same => unnamed (same ▸ named)
    rw [h.draftAt i other]
    refine ⟨rfl, rfl, fun j versions shown => ?_⟩
    cases found : s.draftAt i with
    | error p => simp [found, Except.bind] at shown
    | ok d =>
      cases edited : Problem.ofMisused (c.apply d) with
      | error p => simp [found, edited, Except.bind, Except.map] at shown
      | ok d₁ =>
        simp only [found, edited, Except.bind, Except.map, Except.ok.injEq, Reply.draft.injEq] at shown
        exact shown.1 ▸ other
  · obtain ⟨p, refused⟩ := s.edit_unnamed c id (fun i named => rule ⟨i, named⟩)
    rw [refused s rfl, refused t h.names]
    exact ⟨h, fun _ => fails p⟩

theorem view (h : Apart k s t) (id : Text) :
    Apart k (s.step (.view id)).state (t.step (.view id)).state ∧
    (Fields.get? id s.names ≠ some (.rule k) → Unaffected k (s.step (.view id)) (t.step (.view id))) := by
  rw [view_eq, view_eq, s.ruleOf_names t h.names]
  refine ⟨h, fun unnamed => ?_⟩
  cases found : s.ruleOf id (Part.name .room) with
  | error p => exact fails p
  | ok i =>
    have other : i ≠ k := fun same => unnamed (same ▸ s.ruleOf_ok id _ i found)
    simp only [Except.bind, shown, h.draftAt i other]
    refine ⟨rfl, rfl, fun j versions shown => ?_⟩
    cases drafted : s.draftAt i with
    | error p => simp [drafted, Except.map] at shown
    | ok d =>
      simp only [drafted, Except.map, Except.ok.injEq, Reply.draft.injEq] at shown
      exact shown.1 ▸ other

theorem bind (h : Apart k s t) (name : Text) (n : Named) :
    Apart k { s with names := Fields.put name n s.names } { t with names := Fields.put name n t.names } :=
  ⟨h.live, h.next, congrArg (Fields.put name n) h.names, h.others, h.kinds, h.there⟩

theorem handler (h : Apart k s t) (name id : Text) (context : Fields Value) :
    Apart k (s.step (.handler name id context)).state (t.step (.handler name id context)).state ∧
    (Fields.get? id s.names ≠ some (.rule k) →
      Unaffected k (s.step (.handler name id context)) (t.step (.handler name id context))) := by
  rw [handler_eq, handler_eq, s.ruleOf_names t h.names]
  cases found : s.ruleOf id (Part.name .room) with
  | error p => exact ⟨h, fun _ => fails p⟩
  | ok i =>
    cases Problem.ofMisused (handlerSink context) with
    | error p => exact ⟨h, fun _ => fails p⟩
    | ok sink =>
      by_cases same : i = k
      · -- Both have the rule, and what it holds does not matter.
        subst same
        have there₁ : i < t.drafts.length := h.length ▸ h.there
        simp only [Relay.draftAt, List.getElem?_eq_getElem h.there, List.getElem?_eq_getElem there₁]
        exact ⟨h.bind name _, fun unnamed => absurd (s.ruleOf_ok id _ i found) unnamed⟩
      · dsimp only
        rw [h.draftAt i same]
        cases s.draftAt i with
        | error p => exact ⟨h, fun _ => fails p⟩
        | ok d =>
          refine ⟨h.bind name _, fun _ => ⟨rfl, rfl, fun j versions shown => ?_⟩⟩
          cases shown
          exact same

theorem update (h : Apart k s t) (p : Proposal) :
    Apart k (s.step (.update p)).state (t.step (.update p)).state ∧
    Unaffected k (s.step (.update p)) (t.step (.update p)) := by
  simp only [step, Relay.update, h.next, h.live]
  cases p.make s.next with
  | error x => exact ⟨h, fails x⟩
  | ok made =>
    simp only [Bind.bind, Except.bind]
    cases s.live.update made.1 with
    | error x => exact ⟨h, fails x⟩
    | ok put =>
      have moved : Apart k { s with live := put.1, next := made.2 } { t with live := put.1, next := made.2 } :=
        ⟨rfl, rfl, h.names, h.others, h.kinds, h.there⟩
      exact ⟨moved, rfl, rfl, fun _ _ shown => by cases shown⟩

theorem settled (h : Apart k s t) (x : Step) (hx : x.isSettled = true) :
    Apart k (s.step x).state (t.step x).state ∧ (¬ s.Concerns k x → Unaffected k (s.step x) (t.step x)) := by
  have endpoint : t.endpoint = s.endpoint := congrArg (·.current.endpoint) h.live
  have both {o q : Outcome Relay Reply} (b : Apart k o.state q.state ∧ Unaffected k o q) :
      Apart k o.state q.state ∧ (¬ s.Concerns k x → Unaffected k o q) := ⟨b.1, fun _ => b.2⟩
  cases x with
  | alert | handle | test | drop => cases hx
  | config =>
    refine both ⟨h, ?_, rfl, fun _ _ shown => by cases shown⟩
    exact congrArg (fun e => Except.ok (Reply.endpoint e)) endpoint
  | update p => exact both (h.update p)
  | defaultRule id | testRule id =>
    simp only [step, endpoint]
    exact both (h.made id _)
  | rule id data | testRuleOf id data => exact both (h.made id _)
  | set id field v => exact h.edit (.set field v) id
  | append id field v => exact h.edit (.append field v) id
  | view id => exact h.view id
  | handler name id context => exact h.handler name id context
  | start | enter => exact both ⟨h, rfl, rfl, fun _ _ shown => by cases shown⟩
  | close | exit => exact both ⟨h.setLink _ _, rfl, rfl, fun _ _ shown => by cases shown⟩

theorem drop (h : Apart k s t) : Apart k (s.step .drop).state (t.step .drop).state := by
  simp only [step]
  cases s.link.drop? with
  | none =>
    cases t.link.drop? with
    | none => exact h
    | some m => exact h.setLink s.link m
  | some l =>
    cases t.link.drop? with
    | none => exact h.setLink l t.link
    | some m => exact h.setLink l m

theorem step (h : Apart k s t) (x : Step) : Apart k (s.step x).state (t.step x).state := by
  cases x with
  | alert | handle | test =>
    rw [s.step_of_attempt _ _ rfl, t.step_of_attempt _ _ rfl]
    exact h.attend _ _
  | drop => exact h.drop
  | _ => exact (h.settled _ rfl).1

theorem after (h : Apart k s t) (steps : List Step) : Apart k (s.after steps) (t.after steps) := by
  induction steps generalizing s t with
  | nil => exact h
  | cons x r ih => exact ih (h.step x)

/-- A name that stands for a rule is no handler's, and the answer tells the kind of the rule only. -/
theorem handlerOf (h : Apart k s t) (id : Text) : t.handlerOf id = s.handlerOf id := by
  simp only [Relay.handlerOf, Relay.named, h.names]
  cases Fields.get? id s.names with
  | none => rfl
  | some n =>
    cases n with
    | handler g => rfl
    | rule i =>
      have kind : (t.drafts[i]?).map Draft.isTest = (s.drafts[i]?).map Draft.isTest := by
        rw [← List.getElem?_map, ← List.getElem?_map, h.kinds]
      simp only [Bind.bind, Except.bind, Relay.draftAt]
      cases hs : s.drafts[i]? with
      | none =>
        rw [hs] at kind
        rw [Option.map_eq_none_iff.mp kind]
      | some d =>
        rw [hs] at kind
        obtain ⟨d₁, ht, same⟩ := Option.map_eq_some_iff.mp kind
        simp only [ht, Draft.typeName, same]

/-- What is delivered from anything but the rule `k` is asked for in the same words. -/
theorem attempt (h : Apart k s t) (x : Step) (apart : ¬ s.Concerns k x) : t.attempt x = s.attempt x := by
  cases x with
  | handle id event =>
    simp only [Relay.attempt, h.handlerOf id]
    cases found : s.handlerOf id with
    | error p => rfl
    | ok g =>
      have other : g.draft ≠ k := by
        intro same
        exact apart ⟨g.sink, same ▸ s.handlerOf_ok id g found⟩
      simp only [Bind.bind, Except.bind, h.draftAt g.draft other]
  | test subject =>
    cases subject with
    | item i =>
      have same : t.subject (.item i) = s.subject (.item i) := by
        cases i <;> simp only [Relay.subject, h.next]
      simp only [Relay.attempt, same]
    | named id =>
      simp only [Relay.attempt, Relay.subject, Relay.named, h.names]
      cases found : Fields.get? id s.names with
      | none => rfl
      | some n =>
        cases n with
        | handler g => rfl
        | rule i =>
          have other : i ≠ k := fun same => apart (same ▸ found)
          simp only [Bind.bind, Except.bind, h.draftAt i other]
  | _ => rfl

theorem posts (h : Apart k s t) (x : Step) (apart : ¬ s.Concerns k x) :
    List.Forall₂ Request.SameButSession (s.step x).requests (t.step x).requests := by
  have endpoint : t.endpoint = s.endpoint := congrArg (·.current.endpoint) h.live
  rw [step_requests, step_requests, endpoint]
  simp only [Relay.posts, h.attempt x apart]
  split
  · rename_i a _
    cases a.order.build with
    | error p => exact .nil
    | ok alert =>
      dsimp only
      split
      · exact .cons ⟨rfl, rfl⟩ .nil
      · exact .nil
  · exact .nil

end Apart

/-- Only a step that gives a name anew changes what it stands for. -/
theorem names_step (s : Relay) (x : Step) (name : Text) (kept : x.gives? ≠ some name) :
    Fields.get? name (s.step x).state.names = Fields.get? name s.names := by
  have put (id : Text) (n : Named) (other : some id ≠ some name) :
      Fields.get? name (Fields.put id n s.names) = Fields.get? name s.names := by
    have apart : (id == name) = false := beq_eq_false_iff_ne.mpr (fun same => other (congrArg some same))
    simp only [Ordered.get?_put, apart, Bool.false_eq_true, if_false]
  have made (id : Text) (c : Checked Draft) (other : some id ≠ some name) :
      Fields.get? name (s.made id c).state.names = Fields.get? name s.names := by
    cases c with
    | error is => rfl
    | ok d => exact put id _ other
  have edited (c : Edit) (id : Text) :
      Fields.get? name (s.step (c.step id)).state.names = Fields.get? name s.names := by
    by_cases rule : ∃ i, Fields.get? id s.names = some (.rule i)
    · obtain ⟨i, named⟩ := rule
      rw [s.edit_named c id i named]
    · obtain ⟨p, refused⟩ := s.edit_unnamed c id (fun i named => rule ⟨i, named⟩)
      rw [refused s rfl]
      rfl
  cases x with
  | alert | handle | test =>
    rw [s.step_of_attempt _ _ rfl]
    obtain ⟨l, hl⟩ := s.attend_state _
    rw [hl]
    rfl
  | defaultRule | rule | testRule | testRuleOf => exact made _ _ kept
  | update p => exact congrArg (Fields.get? name) (s.update_desk p).2
  | set id field v => exact edited (.set field v) id
  | append id field v => exact edited (.append field v) id
  | view id => rw [view_eq]
  | handler id draft context =>
    rw [handler_eq]
    split
    · rfl
    · rfl
    · cases s.draftAt _ with
      | error p => rfl
      | ok d => exact put id _ kept
  | drop =>
    simp only [step]
    cases s.link.drop? <;> rfl
  | config | start | enter | close | exit => rfl

theorem names_after (s : Relay) (steps : List Step) (name : Text)
    (kept : ∀ x ∈ steps, x.gives? ≠ some name) :
    Fields.get? name (s.after steps).names = Fields.get? name s.names := by
  induction steps generalizing s with
  | nil => rfl
  | cons x r ih =>
    have rest := ih (s.step x).state (fun y member => kept y (by simp [member]))
    exact rest.trans (s.names_step x name (kept x (by simp)))

theorem draft_of_number (s : Relay) (reached : s.Reached) (id : Text) (n : Named)
    (named : Fields.get? id s.names = some n) : ∃ d, s.drafts[n.serial]? = some d := by
  have there : n.serial < s.drafts.length := s.grounded_of_reached reached id n named
  exact ⟨_, List.getElem?_eq_getElem there⟩

theorem reached_after (s : Relay) (reached : s.Reached) (steps : List Step) :
    (s.after steps).Reached := by
  obtain ⟨e, script, before, rfl⟩ := reached
  refine ⟨e, script, before ++ steps, ?_⟩
  generalize start e script = r
  induction before generalizing r with
  | nil => rfl
  | cons x before ih => exact ih (r.step x).state

/-- A handler delivers from the rule that it was bound to, as that rule is when it is called. -/
theorem bound_posts (s : Relay) (reached : s.Reached) (name id : Text) (k : Nat)
    (context : Fields Value) (sink : Sink) (named : Fields.get? id s.names = some (.rule k))
    (made : handlerSink context = .ok sink) (later : List Step)
    (kept : ∀ x ∈ later, x.gives? ≠ some name) :
    let u := s.after (.handler name id context :: later)
    ∃ d, u.drafts[k]? = some d ∧ ∀ data event, Event.check data = .ok event →
      (u.step (.handle name data)).requests = (u.alert (orderOf d (.level event.level))).requests := by
  intro u
  obtain ⟨now, hnow⟩ := s.draft_of_number reached id _ named
  have first : Fields.get? name (s.step (.handler name id context)).state.names =
      some (.handler ⟨k, sink⟩) := by
    simp only [handler_eq, s.ruleOf_named id _ k named, made, Problem.ofMisused_ok, draftAt]
    rw [show s.drafts[k]? = some now from hnow]
    simp only [Ordered.get?_put, beq_self_eq_true, if_true]
  have bound : Fields.get? name u.names = some (.handler ⟨k, sink⟩) :=
    (names_after _ later name kept).trans first
  obtain ⟨d, hd⟩ := u.draft_of_number (s.reached_after reached _) name _ bound
  refine ⟨d, hd, fun data event valid => ?_⟩
  have found : u.handlerOf name = .ok ⟨k, sink⟩ := by
    simp only [handlerOf, Relay.named, bound, bind, Except.bind]
    rfl
  have at_call : u.draftAt k = .ok d := by
    simp only [draftAt]
    rw [show u.drafts[k]? = some d from hd]
  rw [u.step_of_attempt _ _ (u.attempt_handle name ⟨k, sink⟩ d data event found at_call valid)]
  exact perform_requests _ u

theorem test_posts (s : Relay) (name : Text) (k : Nat) (d : Draft)
    (named : Fields.get? name s.names = some (.rule k)) (found : s.drafts[k]? = some d)
    (isTest : d.isTest = true) :
    (s.step (.test (.named name))).requests = (s.alert (orderOf d (.level .critical))).requests := by
  have rule : s.named name = .ok (.rule k) := by
    simp only [Relay.named, named]
  have at_call : s.draftAt k = .ok d := by
    simp only [draftAt, found]
  rw [s.step_of_attempt _ _ (s.attempt_test name k d rule at_call isTest)]
  exact perform_requests _ s

/-- An edit of the rule numbered `k` changes that rule and nothing else. A run that goes on from there
and one that goes on without the edit hold the same endpoint, names and other rules; steps that
do not concern the rule ask for the same deliveries and post the same, and answer the same if they
neither deliver nor drop a session. A handler bound to the rule, or a test of it, posts what the
rule holds at that moment, whatever its first name was given to since. -/
theorem edits_stay_apart (s : Relay) (reached : s.Reached) (id : Text) (k : Nat)
    (named : Fields.get? id s.names = some (.rule k)) :
    let order (d : Draft) (l : Level) : Order :=
      { room := d.now .room
        labelNames := d.now .labelNames
        labelValues := d.now .labelValues
        annotationNames := d.now .annotationNames
        annotationValues := d.now .annotationValues
        urgency := .level l }
    (∀ c : Edit,
      let edited := (s.step (c.step id)).state
      edited = { s with drafts := s.drafts.modify k c.onto } ∧
      ∀ later x, let u := s.after later
        let v := edited.after later
        Apart k u v ∧
        (¬ u.Concerns k x → v.attempt x = u.attempt x ∧
          List.Forall₂ Request.SameButSession (u.step x).requests (v.step x).requests ∧
          (x.isSettled = true → Unaffected k (u.step x) (v.step x)))) ∧
    (∀ name context sink, handlerSink context = .ok sink →
      ∀ later : List Step, (∀ x ∈ later, x.gives? ≠ some name) →
        let u := s.after (.handler name id context :: later)
        ∃ d, u.drafts[k]? = some d ∧ ∀ data event, Event.check data = .ok event →
          (u.step (.handle name data)).requests = (u.alert (order d event.level)).requests) ∧
    ∀ later name d, let u := s.after later
      Fields.get? name u.names = some (.rule k) → u.drafts[k]? = some d → d.isTest = true →
      (u.step (.test (.named name))).requests = (u.alert (order d .critical)).requests := by
  intro order
  have there : k < s.drafts.length := s.grounded_of_reached reached id _ named
  refine ⟨fun c => ⟨?_, fun later x => ?_⟩, fun name context sink made later kept => ?_,
    fun later name d rule found isTest => ?_⟩
  · rw [s.edit_named c id k named]
  · rw [s.edit_named c id k named]
    have apart := (Apart.of_edit s k c there).after later
    exact ⟨apart, fun other => ⟨apart.attempt x other, apart.posts x other,
      fun settled => (apart.settled x settled).2 other⟩⟩
  · exact s.bound_posts reached name id k context sink named made later kept
  · exact test_posts _ name k d rule found isTest

/-- Two self-tests of one endpoint. The first is appended to under a handler, and its name given away. -/
theorem edited_self_test_apart :
    let e : Endpoint := ⟨⟨true, "https://am.example/api", "ops", ["severity"], ["page"], [], []⟩, by decide⟩
    let s := (start e []).after [.testRule "a", .testRule "b"]
    let c : Edit := .append "label_names" (.text "host")
    let later : List Step := [c.step "a", .append "a" "label_values" (.text "db"), .rule "a" []]
    let u := s.after (.handler "h" "a" [] :: later)
    s.Reached ∧ Fields.get? "a" s.names = some (.rule 0) ∧
      Apart 0 s (s.step (c.step "a")).state ∧
      (∃ d, u.drafts[0]? = some d ∧ d.now .labelNames = .texts ["severity", "host"] ∧
        (u.step (.handle "h" [])).requests = (u.alert ⟨.text "ops", .texts ["severity", "host"],
          .texts ["page", "db"], .texts [], .texts [], .level .ok⟩).requests) ∧
      (u.step (.handle "h" [])).requests.length = 1 := by
  intro e s c later u
  have reached : s.Reached := ⟨e, [], _, rfl⟩
  obtain ⟨edits, handled, _⟩ := edits_stay_apart s reached "a" 0 rfl
  obtain ⟨d, found, posts⟩ := handled "h" [] ⟨[]⟩ rfl later (by decide)
  have posted : (u.step (.handle "h" [])).requests.length = 1 := by decide +kernel
  have post := posts [] ⟨"", "", "", .ok, none⟩ rfl
  cases Option.some.inj found
  exact ⟨reached, rfl, ((edits c).2 [] .config).1, ⟨_, rfl, rfl, post⟩, posted⟩

end Relay
end AlertRelay
