import AlertRelay.Proofs.Isolation

/-! Contexts that sinks and handlers are made with. The names of a context travel beside those that
each operation on its way has for its own arguments, and a context with one of these is refused.
With any other names a handler is made of every rule, whatever the rule holds. -/
namespace AlertRelay

namespace Sink

theorem refuse_free (operation : String) (taken : List Text) (context : Fields Value)
    (free : ∀ n ∈ Ordered.keys context, n ∉ taken) : refuse operation taken context = .ok () := by
  have clear : context.find? (fun p => taken.contains p.1) = none := by
    simp only [List.find?_eq_none, List.contains_iff_mem]
    exact fun p member => free p.1 (List.mem_map_of_mem member)
  simp only [refuse, clear]

theorem refuse_taken (operation : String) (taken : List Text) (context : Fields Value) (n : Text)
    (named : n ∈ Ordered.keys context) (clash : n ∈ taken) :
    ∃ m ∈ Ordered.keys context, m ∈ taken ∧
      refuse operation taken context = .error (.repeatedArgument operation m) := by
  cases found : context.find? (fun p => taken.contains p.1) with
  | none =>
    obtain ⟨p, member, rfl⟩ := List.mem_map.mp named
    have other := List.find?_eq_none.mp found p member
    exact absurd (List.contains_iff_mem.mpr clash) other
  | some p =>
    have member : p.1 ∈ Ordered.keys context := List.mem_map_of_mem (List.mem_of_find?_eq_some found)
    have accepted := List.find?_some found
    have hit : p.1 ∈ taken := List.contains_iff_mem.mp accepted
    exact ⟨p.1, member, hit, by simp only [refuse, found]⟩

theorem bind_free (s : Sink) (context : Fields Value)
    (free : Text.ofString "self" ∉ Ordered.keys context) :
    s.bind context = .ok ⟨Ordered.update s.context context⟩ := by
  have passed : refuse "StructlogDiagnostic.with_context" ["self"] context = .ok () := by
    apply refuse_free
    intro n member taken
    exact free (List.mem_singleton.mp taken ▸ member)
  simp only [Sink.bind, passed, Bind.bind, Except.bind]
  rfl

end Sink

namespace Relay

/-- The names that the maker of handlers has for its own arguments. -/
def makerNames : List Text := ["self", "config"]

theorem handlerSink_free (context : Fields Value) (free : ∀ n ∈ Ordered.keys context, n ∉ makerNames) :
    handlerSink context = .ok ⟨Ordered.ofPairs context⟩ := by
  have passed : Sink.refuse "AlertmanagerService.handler" makerNames context = .ok () :=
    Sink.refuse_free _ _ context free
  have bound := Sink.root.bind_free context (fun own => free _ own List.mem_cons_self)
  unfold makerNames at passed
  simp only [handlerSink, passed, bound, bind, Except.bind]
  rfl

theorem handlerSink_taken (context : Fields Value) (n : Text) (named : n ∈ Ordered.keys context)
    (clash : n ∈ makerNames) :
    ∃ m ∈ Ordered.keys context, m ∈ makerNames ∧
      handlerSink context = .error (.repeatedArgument "AlertmanagerService.handler" m) := by
  obtain ⟨m, member, hit, refused⟩ :=
    Sink.refuse_taken "AlertmanagerService.handler" makerNames context n named clash
  unfold makerNames at refused
  exact ⟨m, member, hit, by simp only [handlerSink, refused, bind, Except.bind]⟩

theorem handler_of_free (s : Relay) (name id : Text) (k : Nat) (d : Draft) (context : Fields Value)
    (named : Fields.get? id s.names = some (.rule k)) (found : s.drafts[k]? = some d)
    (free : ∀ n ∈ Ordered.keys context, n ∉ makerNames) :
    s.step (.handler name id context) =
      ⟨{ s with names := Fields.put name (.handler ⟨k, ⟨Ordered.ofPairs context⟩⟩) s.names },
        .ok (.draft k d.versions), [], []⟩ := by
  simp only [handler_eq, s.ruleOf_named id _ k named, handlerSink_free context free,
    Problem.ofMisused_ok, draftAt, found]

theorem handler_of_taken (s : Relay) (name id : Text) (k : Nat) (context : Fields Value) (n : Text)
    (named : Fields.get? id s.names = some (.rule k)) (member : n ∈ Ordered.keys context)
    (clash : n ∈ makerNames) :
    ∃ m ∈ Ordered.keys context, m ∈ makerNames ∧ s.step (.handler name id context) =
      s.fails (.misuse (.repeatedArgument "AlertmanagerService.handler" m)) := by
  obtain ⟨m, there, hit, refused⟩ := handlerSink_taken context n member clash
  refine ⟨m, there, hit, ?_⟩
  simp only [handler_eq, s.ruleOf_named id _ k named, refused]
  rfl

theorem handlerOf_named (s : Relay) (name : Text) (h : Handler)
    (named : Fields.get? name s.names = some (.handler h)) : s.handlerOf name = .ok h := by
  simp only [handlerOf, Relay.named, named, bind, Except.bind]
  rfl

/-- A handler is made of every rule exactly when its context has no name of the maker's own arguments.
It stays bound to that very rule, whatever is done later, until its name is given to another; a
context that is refused changes nothing. Either way nothing is posted or logged. -/
theorem handler_made_iff (s : Relay) (reached : s.Reached) (name id : Text) (k : Nat)
    (named : Fields.get? id s.names = some (.rule k)) (context : Fields Value) :
    let o := s.step (.handler name id context)
    let h : Handler := ⟨k, ⟨Ordered.ofPairs context⟩⟩
    o.logs = [] ∧ o.requests = [] ∧
    ((∃ reply, o.result = .ok reply) ↔ ∀ n ∈ Ordered.keys context, n ∉ makerNames) ∧
    (∀ reply, o.result = .ok reply →
      (∃ d, s.drafts[k]? = some d ∧ reply = .draft k d.versions) ∧
      o.state = { s with names := Fields.put name (.handler h) s.names } ∧
      ∀ later : List Step, (∀ x ∈ later, x.gives? ≠ some name) →
        (o.state.after later).handlerOf name = .ok h) ∧
    ∀ p, o.result = .error p → o.state = s ∧ ∃ n ∈ Ordered.keys context, n ∈ makerNames ∧
      p = .misuse (.repeatedArgument "AlertmanagerService.handler" n) := by
  intro o h
  obtain ⟨d, found⟩ := s.draft_of_number reached id _ named
  by_cases free : ∀ n ∈ Ordered.keys context, n ∉ makerNames
  · have made : o = ⟨{ s with names := Fields.put name (.handler h) s.names },
        .ok (.draft k d.versions), [], []⟩ := s.handler_of_free name id k d context named found free
    have bound : Fields.get? name o.state.names = some (.handler h) := by
      simp only [made, Ordered.get?_put, beq_self_eq_true, if_true]
    have sharing : ∀ later : List Step, (∀ x ∈ later, x.gives? ≠ some name) →
        (o.state.after later).handlerOf name = .ok h := by
      intro later kept
      exact handlerOf_named _ name h ((names_after _ later name kept).trans bound)
    rw [made] at sharing ⊢
    refine ⟨rfl, rfl, iff_of_true ⟨_, rfl⟩ free, fun reply answered => ?_, fun p failed => ?_⟩
    · exact ⟨⟨d, found, (Except.ok.inj answered).symm⟩, rfl, sharing⟩
    · cases failed
  · obtain ⟨n, member, clash⟩ : ∃ n ∈ Ordered.keys context, n ∈ makerNames := by
      simpa only [not_forall, not_not, exists_prop] using free
    obtain ⟨m, there, hit, refused⟩ := s.handler_of_taken name id k context n named member clash
    have failed : o = s.fails (.misuse (.repeatedArgument "AlertmanagerService.handler" m)) := refused
    have unmade : ∀ reply, o.result ≠ .ok reply := by
      intro reply made
      rw [failed] at made
      cases made
    refine ⟨congrArg Outcome.logs failed, congrArg Outcome.requests failed,
      iff_of_false (fun ⟨reply, made⟩ => unmade reply made) free,
      fun reply made => absurd made (unmade reply), fun p same => ?_⟩
    rw [failed] at same ⊢
    exact ⟨rfl, m, there, hit, (Except.error.inj same).symm⟩

/-- Two lists of different length, one of them no list any more, are no reason to refuse. -/
theorem handler_made_of_broken_rule :
    let e : Endpoint := ⟨⟨true, "https://am.example/api", "ops", [], [], [], []⟩, by decide⟩
    let s := (start e []).after
      [.rule "c" [(.text "label_names", .texts ["severity"])], .set "c" "label_values" (.int 3)]
    let o := s.step (.handler "h" "c" [("task", .text "cpu"), ("event", .null)])
    s.Reached ∧ Fields.get? "c" s.names = some (.rule 0) ∧ (∃ reply, o.result = .ok reply) ∧
      o.logs = [] ∧ o.requests = [] ∧
      (o.state.after [.append "c" "label_names" (.text "host"), .rule "c" []]).handlerOf "h" =
        .ok ⟨0, ⟨[("task", .text "cpu"), ("event", .null)]⟩⟩ := by
  intro e s o
  have reached : s.Reached := ⟨e, [], _, rfl⟩
  obtain ⟨logs, requests, made, bound, _⟩ :=
    handler_made_iff s reached "h" "c" 0 rfl [("task", .text "cpu"), ("event", .null)]
  obtain ⟨reply, answered⟩ := made.mpr (by decide)
  exact ⟨reached, rfl, ⟨reply, answered⟩, logs, requests, (bound reply answered).2.2 _ (by decide)⟩

/-- A context that calls something a config is refused. -/
theorem config_in_context_refused :
    let e : Endpoint := ⟨⟨true, "https://am.example/api", "ops", [], [], [], []⟩, by decide⟩
    let s := (start e []).after [.rule "c" []]
    let o := s.step (.handler "h" "c" [("config", .text "cpu")])
    s.Reached ∧ Fields.get? "c" s.names = some (.rule 0) ∧ (¬ ∃ reply, o.result = .ok reply) ∧
      o.result = .error (.misuse (.repeatedArgument "AlertmanagerService.handler" "config")) := by
  intro e s o
  refine ⟨⟨e, [], _, rfl⟩, rfl, ?_, rfl⟩
  rintro ⟨reply, made⟩
  cases made

end Relay
end AlertRelay
