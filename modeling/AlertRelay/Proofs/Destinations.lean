import AlertRelay.Proofs.Descriptions
import AlertRelay.Proofs.Posts

/-! Only web addresses are contacted. An endpoint comes into force from checked data alone, and the
check lets an enabled one pass only with a web address; a request goes to the endpoint
that is in force when it is made, and only if that is enabled. -/
namespace AlertRelay

theorem Text.startsWith_iff (t start : Text) :
    t.startsWith start = true ↔ ∃ rest, t = start ++ rest := by
  obtain ⟨cs⟩ := t
  simp only [startsWith, List.isPrefixOf_iff_prefix]
  constructor
  · rintro ⟨rest, h⟩
    exact ⟨⟨rest⟩, congrArg Text.mk h.symm⟩
  · rintro ⟨rest, h⟩
    exact ⟨rest.codes, (congrArg Text.codes h).symm⟩

def IsWebAddress (url : Text) : Prop := ∃ rest : Text, url = "http://" ++ rest ∨ url = "https://" ++ rest

theorem isWebUrl_iff (url : Text) : isWebUrl url = true ↔ IsWebAddress url := by
  simp only [isWebUrl, Bool.or_eq_true, Text.startsWith_iff, IsWebAddress, exists_or]

namespace Endpoint

theorem check_fields (d : Raw) (f : EndpointFields) (read : checkFields d = .ok f) :
    ((f.enabled = true → IsWebAddress f.url) → ∃ e, check d = .ok e ∧ e.toEndpointFields = f) ∧
    (¬ (f.enabled = true → IsWebAddress f.url) → check d = .error [⟨[], .webUrl⟩]) := by
  have made : check d = ofFields f := by
    simp only [check, read]
    rfl
  rw [made, ← isWebUrl_iff]
  constructor
  · intro sound
    exact ⟨⟨f, sound⟩, by simp only [ofFields, dif_pos sound], rfl⟩
  · intro unsound
    simp only [ofFields, dif_neg unsound, Checked.fail]

theorem made_of_toOption (d : Raw) (e : Endpoint) (made : (check d).toOption = some e) :
    check d = .ok e := by
  cases checked : check d with
  | error is =>
    rw [checked] at made
    cases made
  | ok e₁ =>
    rw [checked] at made
    exact congrArg Except.ok (Option.some.inj made)

end Endpoint

/-- Made by the check from some data. -/
def Endpoint.Made (e : Endpoint) : Prop := ∃ d, Endpoint.check d = .ok e

theorem Proposal.made (p : Proposal) (e : Endpoint) (described : p.endpoint? = some e) : e.Made := by
  unfold Proposal.endpoint? at described
  split at described
  · rename_i i
    cases i with
    | endpoint d => exact ⟨d, Endpoint.made_of_toOption d e described⟩
    | narrowed =>
      cases described
      exact ⟨[], rfl⟩
    | testRule | object | value => cases described
  · cases described

theorem Live.Step.made (t : Live.Step) (e : Endpoint) (described : t.endpoint? = some e) :
    e.Made := by
  cases t with
  | store d => exact ⟨d, Endpoint.made_of_toOption d e described⟩
  | update p => exact p.made e described
  | current | hold | held | assign => cases described

namespace Relay

/-- A relay whose endpoint the host also has in its own hands, with the snapshots that it keeps. -/
structure Shared where
  relay : Relay
  snapshots : Fields Issued

/-- A step of the relay, or one on the endpoint in force alone. -/
inductive Act
  | step (t : Step)
  | cell (t : Live.Step)

/-- The endpoint that an act describes and puts in force. -/
def Act.endpoint? : Act → Option Endpoint
  | .step (.update p) => p.endpoint?
  | .step _ => none
  | .cell t => t.endpoint?

namespace Shared

def start (e : Endpoint) (script : List Response) : Shared := ⟨Relay.start e script, []⟩

def session (h : Shared) : Live.Session := ⟨⟨h.relay.live, h.snapshots⟩, h.relay.next⟩

def withSession (h : Shared) (s : Live.Session) : Shared :=
  ⟨{ h.relay with live := s.cell.live, next := s.next }, s.cell.snapshots⟩

/-- The effect of an act, and the requests that it makes. -/
def act (h : Shared) : Act → Shared × List Request
  | .step t => (⟨(h.relay.step t).state, h.snapshots⟩, (h.relay.step t).requests)
  | .cell t => (h.withSession (h.session.step t).1, [])

def after (h : Shared) : List Act → Shared
  | [] => h
  | a :: r => (h.act a).1.after r

end Shared

end Relay
end AlertRelay
