import AlertRelay.Proofs.Steps

/-! Rules and names in a run. A rule is never taken away, so whatever a name stands for has a
rule behind it, in every state that a run reaches. -/
namespace AlertRelay

/-- The rule behind a name: the named one, or that of the handler. -/
def Named.serial : Named → Nat
  | .rule draft => draft
  | .handler h => h.draft

namespace Relay

def Grounded (s : Relay) : Prop :=
  ∀ id n, Fields.get? id s.names = some n → n.serial < s.drafts.length

/-- What a run can reach from a start with any endpoint and any responses. -/
def Reached (s : Relay) : Prop := ∃ e script steps, s = (start e script).after steps

theorem handlerOf_ok (s : Relay) (id : Text) (h : Handler) (found : s.handlerOf id = .ok h) :
    Fields.get? id s.names = some (.handler h) := by
  unfold handlerOf named at found
  cases hn : Fields.get? id s.names with
  | none => simp [hn, bind, Except.bind] at found
  | some n =>
    cases n with
    | handler g =>
      simp only [hn, bind, Except.bind] at found
      cases found
      rfl
    | rule draft =>
      simp only [hn, bind, Except.bind] at found
      cases hd : s.draftAt draft <;> simp [hd, throw, throwThe, MonadExceptOf.throw] at found

theorem ruleOf_ok (s : Relay) (id field : Text) (serial : Nat)
    (found : s.ruleOf id field = .ok serial) : Fields.get? id s.names = some (.rule serial) := by
  unfold ruleOf named at found
  cases hn : Fields.get? id s.names with
  | none => simp [hn, bind, Except.bind] at found
  | some n =>
    simp only [hn, bind, Except.bind] at found
    cases n with
    | handler g => simp [throw, throwThe, MonadExceptOf.throw] at found
    | rule draft =>
      cases found
      rfl

theorem update_desk (s : Relay) (p : Proposal) :
    (s.update p).state.drafts = s.drafts ∧ (s.update p).state.names = s.names := by
  unfold update
  cases p.make s.next with
  | error x => exact ⟨rfl, rfl⟩
  | ok made =>
    simp only [bind, Except.bind]
    cases s.live.update made.1 <;> exact ⟨rfl, rfl⟩

/-- What a step can do to the rules and names of a relay. -/
inductive DeskStep (s : Relay) : Relay → Prop
  | keep (s' : Relay) (drafts : s'.drafts = s.drafts) (names : s'.names = s.names) : DeskStep s s'
  | add (id : Text) (d : Draft) : DeskStep s (s.addDraft id d)
  | change (serial : Nat) (d : Draft) : DeskStep s { s with drafts := s.drafts.set serial d }
  | bind (id draft : Text) (h : Handler) (found : Fields.get? draft s.names = some (.rule h.draft)) :
      DeskStep s { s with names := Fields.put id (.handler h) s.names }

theorem made_desk (s : Relay) (id : Text) (c : Checked Draft) : DeskStep s (s.made id c).state := by
  cases c with
  | error x => exact .keep s rfl rfl
  | ok d => exact .add id d

theorem change_desk (s : Relay) (id field : Text) (f : Draft → Except Misuse Draft) :
    DeskStep s (s.change id field f).state := by
  unfold Relay.change
  cases s.ruleOf id field with
  | error p => exact .keep s rfl rfl
  | ok serial =>
    cases hd : s.draftAt serial with
    | error p =>
      simp only [hd, Bind.bind, Except.bind]
      exact .keep s rfl rfl
    | ok d =>
      simp only [hd, Bind.bind, Except.bind]
      cases Problem.ofMisused (f d) with
      | error p => exact .keep s rfl rfl
      | ok d => exact .change serial d

theorem attend_desk (s : Relay) (x : Except Problem Attempt) : DeskStep s (s.attend x).state := by
  obtain ⟨l, hl⟩ := s.attend_state x
  rw [hl]
  exact .keep (s.setLink l) rfl rfl

theorem step_desk (s : Relay) (t : Step) : DeskStep s (s.step t).state := by
  cases t with
  | config => exact .keep s rfl rfl
  | update p => exact .keep _ (s.update_desk p).1 (s.update_desk p).2
  | defaultRule id => exact s.made_desk id _
  | rule id data => exact s.made_desk id _
  | testRule id => exact s.made_desk id _
  | testRuleOf id data => exact s.made_desk id _
  | set id field v => exact s.change_desk id field _
  | append id field v => exact s.change_desk id field _
  | view id =>
    simp only [step]
    cases s.ruleOf id (Part.name .room) with
    | error p => exact .keep s rfl rfl
    | ok serial =>
      simp only [Bind.bind, Except.bind]
      cases s.shown serial <;> exact .keep s rfl rfl
  | handler id draft context =>
    simp only [step]
    cases hr : s.ruleOf draft (Part.name .room) with
    | error p => exact .keep s rfl rfl
    | ok serial =>
      simp only [Bind.bind, Except.bind]
      cases Problem.ofMisused (handlerSink context) with
      | error p => exact .keep s rfl rfl
      | ok sink =>
        simp only
        cases s.shown serial with
        | error p => exact .keep s rfl rfl
        | ok reply => exact .bind id draft ⟨serial, sink⟩ (s.ruleOf_ok draft _ serial hr)
  | handle id event => exact s.step_of_attempt (.handle id event) _ rfl ▸ s.attend_desk _
  | alert o => exact s.step_of_attempt (.alert o) _ rfl ▸ s.attend_desk _
  | test subject => exact s.step_of_attempt (.test subject) _ rfl ▸ s.attend_desk _
  | start => exact .keep s rfl rfl
  | close => exact .keep _ rfl rfl
  | enter => exact .keep s rfl rfl
  | exit => exact .keep _ rfl rfl
  | drop =>
    simp only [step]
    cases s.link.drop? <;> exact .keep _ rfl rfl

theorem grounded_desk (s s' : Relay) (h : s.Grounded) (d : DeskStep s s') : s'.Grounded := by
  cases d with
  | keep _ drafts names =>
    intro id n hn
    rw [drafts]
    exact h id n (names ▸ hn)
  | add id d =>
    intro id₁ n hn
    simp only [addDraft, Ordered.get?_put, List.length_append, List.length_singleton] at hn ⊢
    split at hn
    · cases Option.some.inj hn
      exact Nat.lt_succ_self _
    · exact Nat.lt_succ_of_lt (h id₁ n hn)
  | change serial d =>
    intro id n hn
    simpa only [List.length_set] using h id n hn
  | bind id draft k found =>
    intro id₁ n hn
    simp only [Ordered.get?_put] at hn
    split at hn
    · cases Option.some.inj hn
      exact h draft (.rule k.draft) found
    · exact h id₁ n hn

theorem grounded_step (s : Relay) (t : Step) (h : s.Grounded) : (s.step t).state.Grounded :=
  grounded_desk s _ h (s.step_desk t)

theorem grounded_after (s : Relay) (steps : List Step) (h : s.Grounded) : (s.after steps).Grounded := by
  induction steps generalizing s with
  | nil => exact h
  | cons t r ih => exact ih (s.step t).state (s.grounded_step t h)

theorem grounded_of_reached (s : Relay) (h : s.Reached) : s.Grounded := by
  obtain ⟨e, script, steps, rfl⟩ := h
  refine grounded_after _ steps (fun id n hn => ?_)
  cases hn

theorem handler_has_rule (s : Relay) (g : s.Grounded) (id : Text) (h : Handler)
    (found : s.handlerOf id = .ok h) : ∃ d, s.draftAt h.draft = .ok d := by
  have bound : h.draft < s.drafts.length := g id (.handler h) (s.handlerOf_ok id h found)
  exact ⟨s.drafts[h.draft], by simp only [draftAt, List.getElem?_eq_getElem bound]⟩

end Relay
end AlertRelay
