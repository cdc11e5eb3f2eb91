import AlertRelay.Proofs.Exchange
import AlertRelay.Proofs.Octets

/-! What a delivery comes to, whatever its exchange does. A failure is wrapped if it is one of the
client's or a timeout, by the kinds it is declared under; what is neither leaves as it was raised. -/
namespace AlertRelay

namespace FailureKind

/-- The kinds that a kind is declared under. -/
def parents : FailureKind → List FailureKind
  | client | system | value | runtime | key | cancelled => []
  | clientConnection | clientPayload | nonHttpUrl => [client]
  | invalidUrl => [client, value]
  | clientSystem => [clientConnection, system]
  | serverConnection => [clientConnection]
  | serverDisconnected => [serverConnection]
  | serverTimeout => [serverConnection, timeout]
  | clientConnectionReset => [clientConnection, connectionReset]
  | connectionTimeout | socketTimeout => [serverTimeout]
  | timeout | connectionReset | connectionRefused | connectionAborted | brokenPipe | blocking
  | childProcess | fileExists | fileNotFound | interrupted | isADirectory | notADirectory
  | permission | processLookup => [system]

inductive IsA : FailureKind → FailureKind → Prop
  | self (k : FailureKind) : IsA k k
  | under {k parent top : FailureKind} (declared : parent ∈ k.parents) (rest : IsA parent top) :
      IsA k top

/-- What a delivery expects to go wrong: errors of the client, and timeouts. -/
def IsExpected (k : FailureKind) : Prop := k.IsA .client ∨ k.IsA .timeout

theorem IsExpected.under {k parent : FailureKind} (declared : parent ∈ k.parents)
    (expected : parent.IsExpected) : k.IsExpected :=
  expected.imp (.under declared) (.under declared)

theorem isTransport_of_parent {k parent : FailureKind} (declared : parent ∈ k.parents)
    (transport : parent.isTransport = true) : k.isTransport = true := by
  -- A kind that is not wrapped, such as a timeout's own parent, has no parent that is.
  have closed : k.isTransport = true ∨ k.parents.all (fun p => !p.isTransport) = true := by
    cases k <;> decide
  rcases closed with wrapped | plain
  · exact wrapped
  · have other := List.all_eq_true.mp plain parent declared
    simp [transport] at other

theorem IsA.isTransport {k top : FailureKind} (h : k.IsA top) (transport : top.isTransport = true) :
    k.isTransport = true := by
  induction h with
  | self => exact transport
  | under declared _ ih => exact isTransport_of_parent declared (ih transport)

theorem isTransport_iff (k : FailureKind) : k.isTransport = true ↔ k.IsExpected := by
  constructor
  · intro transport
    have client : IsExpected .client := Or.inl (.self _)
    have timeout : IsExpected .timeout := Or.inr (.self _)
    have connection : IsExpected .clientConnection := client.under (by decide)
    have server : IsExpected .serverConnection := connection.under (by decide)
    have late : IsExpected .serverTimeout := timeout.under (by decide)
    cases k with
    | client => exact client
    | timeout => exact timeout
    | clientConnection => exact connection
    | serverConnection => exact server
    | serverTimeout => exact late
    | clientPayload | invalidUrl | nonHttpUrl => exact client.under (by decide)
    | clientSystem | clientConnectionReset => exact connection.under (by decide)
    | serverDisconnected => exact server.under (by decide)
    | connectionTimeout | socketTimeout => exact late.under (by decide)
    | _ => cases transport
  · rintro (client | timeout)
    · exact client.isTransport rfl
    · exact timeout.isTransport rfl

end FailureKind

namespace Response

/-- An answer other than success came, and its body was read for the log. -/
def IsLogged (r : Response) : Prop :=
  r.entered = true ∧ r.status ≠ 200 ∧ r.raisedAt .body = none

instance isLoggedDecidable (r : Response) : Decidable r.IsLogged :=
  inferInstanceAs (Decidable (_ ∧ _ ∧ _))

theorem not_isLogged_of_success (r : Response) (success : r.status = 200) : ¬ r.IsLogged :=
  fun logged => logged.2.1 success

end Response

namespace Courier

/-- The result says that the transport failed, names the failure and keeps it as the cause. -/
def Wraps (f : Failure) (result : Except Problem Unit) : Prop :=
  ∃ args, result = .error (.adapter (.transport args (some f))) ∧
    argsText args = "POST to Alertmanager failed: " ++ f.name

/-- All that a delivery to an enabled endpoint comes to. -/
structure Settled (e : Endpoint) (a : Alert) (r : Response) (o : Outcome Courier Unit) : Prop where
  posted : ∃ i, o.requests = [⟨i, e.url, a.body⟩]
  wrapped : ∀ f, r.raised? = some (.failure f) → f.kind.IsExpected → Wraps f o.result
  unchanged : ∀ p, r.raised? = some p → (∀ f, p = .failure f → ¬ f.kind.IsExpected) →
    o.result = .error p
  delivered : r.raised? = none → r.status = 200 → o.result = .ok ()
  refused : r.raised? = none → r.status ≠ 200 →
    o.result = .error (.adapter (.status (.int r.status)))
  contained : ∀ f, o.result = .error (.failure f) → ¬ f.kind.IsExpected
  logged : o.logs = (if r.raised? = none ∧ r.status = 200 then [sent a] else []) ++
    (if r.IsLogged then [r.refused] else [])

theorem report_expected (f : Failure) (expected : f.kind.IsExpected) :
    report (.failure f) = .adapter (.ofFailure f) := by
  simp only [report, f.kind.isTransport_iff.mpr expected, if_true]

theorem report_other (p : Problem) (other : ∀ f, p = .failure f → ¬ f.kind.IsExpected) :
    report p = p := by
  cases p with
  | failure f =>
    have plain : ¬ f.kind.isTransport = true := other f rfl ∘ f.kind.isTransport_iff.mp
    simp only [report, if_neg plain]
  | _ => rfl

theorem report_contained (p : Problem) (f : Failure) (left : report p = .failure f) :
    ¬ f.kind.IsExpected := by
  intro expected
  cases p with
  | failure g =>
    by_cases wrapped : g.kind.IsExpected
    · rw [report_expected g wrapped] at left
      cases left
    · rw [report_other _ (fun _ same => Problem.failure.inj same ▸ wrapped)] at left
      cases left
      exact wrapped expected
  | _ => cases left

theorem verdict_raised (r : Response) (p : Problem) (raised : r.raised? = some p) :
    verdict r = .error (report p) := by
  simp only [verdict, raised]

theorem verdict_contained (r : Response) (f : Failure) (left : verdict r = .error (.failure f)) :
    ¬ f.kind.IsExpected := by
  cases raised : r.raised? with
  | some p =>
    rw [verdict_raised r p raised] at left
    exact report_contained p f (Except.error.inj left)
  | none =>
    simp only [verdict, raised] at left
    split at left <;> cases left

theorem noted_eq (a : Alert) (r : Response) :
    noted a r = (if r.raised? = none ∧ r.status = 200 then [sent a] else []) ++
      (if r.IsLogged then [r.refused] else []) := by
  by_cases delivered : r.raised? = none ∧ r.status = 200
  · have returned : verdict r = .ok () := by simp only [verdict, delivered.1, delivered.2, if_true]
    rw [if_pos delivered, if_neg (r.not_isLogged_of_success delivered.2)]
    simp only [noted, returned, List.append_nil]
  · have failed : ∃ p, verdict r = .error p := by
      unfold verdict
      split
      · exact ⟨_, rfl⟩
      · rename_i calm
        exact ⟨_, if_neg (fun success => delivered ⟨calm, success⟩)⟩
    obtain ⟨p, hp⟩ := failed
    rw [if_neg delivered, List.nil_append]
    simp only [noted, hp]
    exact r.meet_logs

theorem send_settled (c : Courier) (e : Endpoint) (a : Alert) (r : Response) (on : e.enabled = true) :
    Settled e a r (c.send e a r) := by
  rw [send_enabled c e a r on]
  constructor
  case posted => exact ⟨_, rfl⟩
  case wrapped =>
    intro f raised expected
    refine ⟨[.text ("POST to Alertmanager failed: " ++ f.name)], ?_, rfl⟩
    rw [verdict_raised r _ raised, report_expected f expected]
    rfl
  case unchanged =>
    intro p raised other
    rw [verdict_raised r p raised, report_other p other]
  case delivered =>
    intro calm success
    simp only [verdict, calm, success, if_true]
  case refused =>
    intro calm failed
    simp only [verdict, calm, if_neg failed]
  case contained => exact verdict_contained r
  case logged => exact noted_eq a r

/-- A refusal is read and logged. What the system raises while it is left has the number of a timeout,
so it is one, and takes the place of the status. -/
theorem late_leaving_settled :
    let e : Endpoint := ⟨⟨true, "https://am.example/api", "ops", [], [], [], []⟩, by decide⟩
    let r : Response := ⟨503, [98], some ⟨.leave, Failure.raise .system [.int 110, .text "late"]⟩⟩
    let o := start.send e ⟨.firing, .empty, .empty⟩ r
    e.enabled = true ∧ Wraps ⟨.timeout, [.int 110, .text "late"]⟩ o.result ∧ o.logs = [r.refused] := by
  intro e r o
  have settled := send_settled start e ⟨.firing, .empty, .empty⟩ r rfl
  exact ⟨rfl, settled.wrapped _ rfl (Or.inr (.self _)), settled.logged⟩

theorem send_refused (c : Courier) (e : Endpoint) (a : Alert) (r : Response) (on : e.enabled = true)
    (calm : r.fault = none) (failed : r.status ≠ 200) :
    (c.send e a r).result = .error (.adapter (.status (.int r.status))) ∧ (c.send e a r).logs = [r.refused] := by
  have raised : r.raised? = none := by simp only [Response.raised?, calm]
  have logged : r.entered = true ∧ r.status ≠ 200 ∧ r.raisedAt .body = none := by
    simp only [Response.entered, Response.raisedAt, calm]
    exact ⟨rfl, failed, trivial⟩
  have told : verdict r = .error (.adapter (.status (.int r.status))) := by
    simp only [verdict, raised, if_neg failed]
  rw [send_enabled c e a r on]
  refine ⟨told, ?_⟩
  simp only [noted, told, r.meet_logs, if_pos logged]

/-- A refusal with any octets in its body is told by its status, and logged once with the first two
hundred characters of what the body reads as. There is one way to read it: the characters of a string
are kept whatever follows them, so a body that is a short string is logged as it is. -/
theorem refusal_excerpted (c : Courier) (e : Endpoint) (a : Alert) (r : Response) (on : e.enabled = true)
    (calm : r.fault = none) (failed : r.status ≠ 200) :
    let o := c.send e a r
    let read := Utf8.decodeLossy r.body
    o.result = .error (.adapter (.status (.int r.status))) ∧
    o.logs = [⟨.warning, "alertmanager_send_failed",
      [("status", .int r.status), ("body", .text (read.take 200))]⟩] ∧
    (∀ cs, Utf8.Reads r.body cs ↔ cs = read.codes) ∧
    (∀ (s : String) rest, Utf8.decodeLossy (Utf8.octets s ++ rest) = s ++ Utf8.decodeLossy rest) ∧
    (∀ s : String, r.body = Utf8.octets s → s.length ≤ 200 → read.take 200 = s) := by
  intro o read
  obtain ⟨result, logs⟩ := send_refused c e a r on calm failed
  refine ⟨result, logs, Utf8.reads_iff r.body, Utf8.decodeLossy_octets, fun s body short => ?_⟩
  have whole : read = s := by
    have h := Utf8.decodeLossy_octets s []
    rw [List.append_nil, ← body, Utf8.decodeLossy_nil] at h
    exact h.trans (congrArg Text.mk (List.append_nil _))
  rw [whole]
  refine congrArg Text.mk (List.take_of_length_le ?_)
  simpa only [Text.ofString, List.length_map, String.length_toList] using short

/-- A character, an octet that begins none, and one that is cut off by a letter. -/
theorem spoiled_refusal_excerpted :
    let e : Endpoint := ⟨⟨true, "https://am.example/api", "ops", [], [], [], []⟩, by decide⟩
    let r : Response := ⟨502, [0xC3, 0xA9, 0xFF, 0xE2, 0x82, 0x41], none⟩
    let o := start.send e ⟨.firing, .empty, .empty⟩ r
    e.enabled = true ∧ r.fault = none ∧ r.status ≠ 200 ∧
      o.result = .error (.adapter (.status (.int 502))) ∧
      o.logs = [⟨.warning, "alertmanager_send_failed",
        [("status", .int 502), ("body", .text ⟨[0xE9, Text.mark, Text.mark, 0x41]⟩)]⟩] := by
  intro e r o
  have read : Utf8.decodeLossy r.body = ⟨[0xE9, Text.mark, Text.mark, 0x41]⟩ := by decide +kernel
  have failed : r.status ≠ 200 := by decide
  obtain ⟨result, logs, _⟩ := refusal_excerpted start e ⟨.firing, .empty, .empty⟩ r rfl rfl failed
  rw [read] at logs
  exact ⟨rfl, rfl, failed, result, logs⟩

end Courier
end AlertRelay
