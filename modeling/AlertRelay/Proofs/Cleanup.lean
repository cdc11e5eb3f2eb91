import AlertRelay.Proofs.Sessions
import AlertRelay.Proofs.Trials
import Mathlib.Data.List.TakeWhile

/-! What the self-test leaves behind. The books of its courier are kept by its one delivery, whatever
the exchange runs into, and closing is the last thing it does, so no session is open at the end. A
malformed item is found before anything is opened. -/
namespace AlertRelay

namespace Courier

theorem kept_send (script : List Response) (n : Nat) (l : Link) (e : Endpoint) (a : Alert) (h : Kept script n l) :
    Kept script (n + (l.send e a).requests.length) (l.send e a).state := by
  cases on : e.enabled with
  | false =>
    simp only [Link.send, send_disabled _ _ _ _ on]
    exact h
  | true =>
    simp only [Link.send, send_enabled _ _ _ _ on]
    exact kept_post script n l h

theorem kept_alert (script : List Response) (n : Nat) (s : Relay) (o : Relay.Order) (h : Kept script n s.link) :
    Kept script (n + (s.alert o).requests.length) (s.alert o).state.link := by
  cases build : o.build with
  | error p =>
    rw [Relay.alert_unbuilt s o p build]
    exact h
  | ok a =>
    rw [Relay.alert_built s o a build]
    exact kept_send script n s.link s.endpoint a h

end Courier

namespace SelfTest

open Courier

theorem kept_tested (e : Endpoint) (script : List Response) (t : TestRule) :
    Kept script (tested e script t).requests.length (tested e script t).state.link := by
  have kept := kept_alert script 0 (Relay.start e script)
    (Relay.orderOf (.ofTestRule t) (.level .critical)) (kept_start script)
  rw [Nat.zero_add] at kept
  exact kept

/-- An item without a sign, or without a name before it. -/
def Malformed (item : Text) : Prop := sign ∉ item.codes ∨ item.codes.head? = some sign

theorem pair?_malformed (item : Text) (malformed : Malformed item) : pair? item = none := by
  unfold pair?
  rcases malformed with signless | nameless
  · have rest : item.codes.dropWhile (· ≠ sign) = [] := by
      apply List.dropWhile_eq_nil_iff.mpr
      intro c member
      exact decide_eq_true (fun same => signless (same ▸ member))
    simp only [rest]
  · obtain ⟨value, codes⟩ := List.head?_eq_some_iff.mp nameless
    rw [codes]
    rfl

theorem splitPairs_accepted (items : List Text) (flag : Text) (ls : List Text × List Text)
    (accepted : splitPairs items flag = .ok ls) : ∀ item ∈ items, ¬ Malformed item := by
  induction items generalizing ls with
  | nil =>
    intro item member
    cases member
  | cons i r ih =>
    cases split : pair? i with
    | none =>
      simp only [splitPairs, split] at accepted
      cases accepted
    | some p =>
      cases rest : splitPairs r flag with
      | error text =>
        simp only [splitPairs, split, rest] at accepted
        cases accepted
      | ok ks =>
        intro item member malformed
        rcases List.mem_cons.mp member with rfl | later
        · rw [pair?_malformed item malformed] at split
          cases split
        · exact ih ks rest item later malformed

theorem overridden_accepted (items : List Text) (flag : Text) (names values : List Text)
    (ls : List Text × List Text) (accepted : overridden items flag names values = .ok ls) :
    ∀ item ∈ items, ¬ Malformed item := by
  unfold overridden at accepted
  split at accepted
  · rename_i none
    rw [List.isEmpty_iff.mp none]
    intro item member
    cases member
  · exact splitPairs_accepted items flag ls accepted

theorem override_accepted (a : Arguments) (t chosen : TestRule) (accepted : override a t = .ok chosen) :
    ∀ item ∈ a.labels ++ a.annotations, ¬ Malformed item := by
  rw [override_eq] at accepted
  cases labels : overridden a.labels "--label" t.labelNames t.labelValues with
  | error text =>
    rw [labels] at accepted
    cases accepted
  | ok ls =>
    cases annotations : overridden a.annotations "--annotation" t.annotationNames t.annotationValues with
    | error text =>
      rw [labels, annotations] at accepted
      cases accepted
    | ok as =>
      intro item member
      rcases List.mem_append.mp member with label | annotation
      · exact overridden_accepted _ _ _ _ ls labels item label
      · exact overridden_accepted _ _ _ _ as annotations item annotation

/-- However the self-test ends, it leaves no session open, and each answer that it entered was released.
With a malformed item among its arguments it opens no session and posts nothing: it is refused for
an item, unless the settings or the log keep it from looking at them. -/
theorem left_clean (words : List Text) (a : Arguments) (parsed : Arguments.parse words = .ok a)
    (w : Surroundings) (script : List Response) :
    let r := run words w script
    (∀ i, r.courier.isOpen i = false) ∧
    r.courier.released = Courier.entered script r.requests.length ∧
    ((∃ item ∈ a.labels ++ a.annotations, Malformed item) →
      r.courier = .start ∧ r.requests = [] ∧
        ((∃ p, r.ending = .problem p) ∨ ∃ text, r.ending = .refused text)) := by
  intro r
  by_cases comes : ∃ x setup t, Ready a w x setup t
  · obtain ⟨x, setup, t, ready⟩ := comes
    have kept := kept_tested x.endpoint script t
    rw [show r = _ from run_ready parsed w script x setup t ready]
    refine ⟨isOpen_close _ kept.order, (close_books _).2.trans kept.released, ?_⟩
    rintro ⟨item, member, malformed⟩
    exact absurd malformed (override_accepted a _ t ready.chosen item member)
  · obtain ⟨ending, ran, passed⟩ :=
      run_unready parsed w script (fun x setup t ready => comes ⟨x, setup, t, ready⟩)
    rw [show r = _ from ran]
    exact ⟨isOpen_close _ (kept_start script).order, rfl, fun _ => ⟨rfl, rfl, passed⟩⟩

/-- A test that is cancelled while its answer is left, and the same with an annotation without a name. -/
theorem cancelled_test_left_clean :
    let octets (t : Text) : List UInt8 := t.codes.map UInt8.ofNat
    let w : Surroundings := ⟨Files.empty.withFile ["am.yaml"]
      (octets "alertmanager:\n  enabled: true\n  url: https://am.example/api\n"), none⟩
    let words : List Text := ["--config=am.yaml", "--label", "severity=page"]
    let script : List Response := [⟨200, [], some ⟨.leave, .ok ⟨.cancelled, []⟩⟩⟩]
    let r := run words w script
    let more : List Text := ["--config=am.yaml", "--label", "severity=page", "--annotation", "=spare"]
    let s := run more w script
    r.requests.length = 1 ∧ r.ending = .problem (.failure ⟨.cancelled, []⟩) ∧ r.courier.closed.length = 1 ∧
      (∀ i, r.courier.isOpen i = false) ∧ r.courier.released = 1 ∧ s.courier = .start ∧ s.requests = [] := by
  intro octets w words script r more s
  let a : Arguments := ⟨some "am.yaml", none, none, ["severity=page"], []⟩
  let e : Endpoint := ⟨⟨true, "https://am.example/api", "", [], [], [], []⟩, by decide⟩
  have parsed : Arguments.parse words = .ok a := by decide +kernel
  have read : w.read a.config = .ok ⟨e, ⟨"INFO", "json"⟩⟩ := w.read_of_toOption _ _ (by decide +kernel)
  have ready : Ready a w ⟨e, ⟨"INFO", "json"⟩⟩ ⟨some .json, 20, 20, 20, true⟩
      ⟨⟨"", ["severity"], ["page"], [], []⟩, Relay.testMessage⟩ := ⟨read, rfl, rfl⟩
  have ran := run_ready parsed w script _ _ _ ready
  obtain ⟨shut, released, _⟩ := left_clean words a parsed w script
  have posted : r.requests.length = 1 := by
    rw [show r = _ from ran]
    rfl
  have ending : r.ending = .problem (.failure ⟨.cancelled, []⟩) := by
    rw [show r = _ from ran]
    rfl
  have opened : r.courier.closed.length = 1 := by
    rw [show r = _ from ran]
    rfl
  have one : r.courier.released = 1 := by
    rw [show r.courier.released = _ from released, posted]
    rfl
  obtain ⟨_, _, unopened⟩ :=
    left_clean more ⟨some "am.yaml", none, none, ["severity=page"], ["=spare"]⟩ (by decide +kernel) w script
  obtain ⟨start, unposted, _⟩ := unopened ⟨"=spare", by decide, Or.inr rfl⟩
  exact ⟨posted, ending, opened, shut, one, start, unposted⟩

end SelfTest
end AlertRelay
