import AlertRelay.Proofs.Contexts
import AlertRelay.Proofs.Merging

/-! Sinks as a tree. What is reported to a sink carries the contexts on the way from the root to it, of
which the last one counts, and then what is reported. What is bound anywhere else is not seen
there, and a sink more does not change what the others report. -/
namespace AlertRelay

/-- What a report gives by itself: the error, the message and the level. -/
def Sink.reported (message : Text) (e : Raised) : Fields Value :=
  [("error", .text e.text), ("error_type", .text e.name), ("event", .text message),
    ("log_level", .text "error")]

theorem Sink.report_toFields (s : Sink) (given : Fields Value) (message : Text) (e : Raised)
    (context : s.context = Ordered.ofPairs given) :
    (s.report message e).toFields = Ordered.ofPairs (given ++ reported message e) := by
  rw [Ordered.ofPairs_append, ← context]
  rfl

namespace SinkTree

/-- What a run binds: from which sink, and with what context. -/
def bindings (steps : List SinkStep) : List (Nat × Fields Value) :=
  steps.filterMap (fun
    | .bind i context => some (i, context)
    | .report _ _ _ => none)

/-- What a run reports: to which sink, under what message, and which error. -/
def reports (steps : List SinkStep) : List (Nat × Text × Raised) :=
  steps.filterMap (fun
    | .report i message (.ok e) => some (i, message, e)
    | _ => none)

/-- Every step is on a sink that is there by then. No context has the name of the binding's own
argument, and every error can be raised. -/
inductive Sound : Nat → List SinkStep → Prop
  | done (count : Nat) : Sound count []
  | bind (count i : Nat) (context : Fields Value) (rest : List SinkStep) (there : i < count)
      (free : Text.ofString "self" ∉ Ordered.keys context) (later : Sound (count + 1) rest) :
      Sound count (.bind i context :: rest)
  | report (count i : Nat) (message : Text) (e : Raised) (rest : List SinkStep) (there : i < count)
      (later : Sound count rest) : Sound count (.report i message (.ok e) :: rest)

/-- The contexts from the root down to a sink. The root is sink zero, and the others are numbered in
the order in which they were bound. -/
inductive Path (initial : Fields Value) (bound : List (Nat × Fields Value)) :
    Nat → List (Fields Value) → Prop
  | root : Path initial bound 0 [initial]
  | child (k i : Nat) (context : Fields Value) (above : List (Fields Value))
      (made : bound[k]? = some (i, context)) (parent : Path initial bound i above) :
      Path initial bound (k + 1) (above ++ [context])

/-- The entry has every name that was given once, with the value that it was given last. -/
structure Tells (given : Fields Value) (entry : Log.Entry) : Prop where
  names : Ordered.keys entry.toFields = (Ordered.keys given).eraseDups
  values : ∀ n, Fields.get? n entry.toFields = Fields.get? n given.reverse

/-- The entry tells the report with the contexts of the one path that leads to its sink. -/
def TellsPath (initial : Fields Value) (bound : List (Nat × Fields Value))
    (r : Nat × Text × Raised) (entry : Log.Entry) : Prop :=
  ∃ contexts, (∀ other, Path initial bound r.1 other ↔ other = contexts) ∧
    Tells (contexts.flatten ++ Sink.reported r.2.1 r.2.2) entry

variable {initial : Fields Value} {bound : List (Nat × Fields Value)}

theorem Path.unique {i : Nat} {contexts other : List (Fields Value)}
    (first : Path initial bound i contexts) (second : Path initial bound i other) : other = contexts := by
  induction first generalizing other with
  | root =>
    cases second
    rfl
  | child k i context above made parent ih =>
    cases second with
    | child _ j context₁ above₁ made₁ parent₁ =>
      rw [made] at made₁
      cases Option.some.inj made₁
      rw [ih parent₁]

theorem Path.grow {i : Nat} {contexts : List (Fields Value)} (path : Path initial bound i contexts)
    (more : List (Nat × Fields Value)) : Path initial (bound ++ more) i contexts := by
  induction path with
  | root => exact .root
  | child k i context above made parent ih =>
    have within : k < bound.length := (List.getElem?_eq_some_iff.mp made).1
    exact .child k i context above (by rw [List.getElem?_append_left within, made]) ih

theorem tells_report (s : Sink) (contexts : List (Fields Value)) (message : Text) (e : Raised)
    (context : s.context = Ordered.ofPairs contexts.flatten) :
    Tells (contexts.flatten ++ Sink.reported message e) (s.report message e) := by
  have fields := s.report_toFields contexts.flatten message e context
  constructor
  · rw [fields, Ordered.keys_ofPairs]
  · intro n
    rw [fields]
    exact Ordered.get?_ofPairs n _

/-- The sinks of a tree after what was bound, each with the contexts of a path that leads to it. -/
structure Grown (initial : Fields Value) (bound : List (Nat × Fields Value)) (t : SinkTree) : Prop where
  count : t.sinks.length = bound.length + 1
  lineage : ∀ i s, t.sinks[i]? = some s → ∃ contexts, Path initial bound i contexts ∧
    s.context = Ordered.ofPairs contexts.flatten

theorem grown_start (distinct : (Ordered.keys initial).Nodup) : Grown initial [] (start initial) := by
  refine ⟨rfl, fun i s found => ?_⟩
  cases i with
  | zero =>
    cases Option.some.inj found
    refine ⟨[initial], .root, ?_⟩
    rw [List.flatten_singleton, Ordered.ofPairs_of_nodup initial distinct]
  | succ i => cases found

theorem grown_bind (t : SinkTree) (grown : Grown initial bound t) (i : Nat) (s : Sink)
    (found : t.sinks[i]? = some s) (context : Fields Value) :
    Grown initial (bound ++ [(i, context)])
      ⟨t.sinks ++ [⟨Ordered.update s.context context⟩], t.entries⟩ := by
  refine ⟨by simp only [List.length_append, List.length_singleton, grown.count], fun j u known => ?_⟩
  rcases Nat.lt_or_ge j t.sinks.length with old | new
  · rw [List.getElem?_append_left old] at known
    obtain ⟨contexts, path, same⟩ := grown.lineage j u known
    exact ⟨contexts, path.grow _, same⟩
  · rw [List.getElem?_append_right new] at known
    obtain ⟨above, parent, same⟩ := grown.lineage i s found
    have number : j = bound.length + 1 := by
      have within := (List.getElem?_eq_some_iff.mp known).1
      have count := grown.count
      rw [List.length_singleton] at within
      omega
    subst number
    rw [grown.count, Nat.sub_self] at known
    cases Option.some.inj known
    refine ⟨above ++ [context], .child _ i context above ?_ (parent.grow _), ?_⟩
    · rw [List.getElem?_append_right (Nat.le_refl _), Nat.sub_self]
      rfl
    · rw [List.flatten_append, List.flatten_singleton, Ordered.ofPairs_append, ← same]

theorem tellsPath_report (t : SinkTree) (grown : Grown initial bound t) (i : Nat) (s : Sink)
    (found : t.sinks[i]? = some s) (message : Text) (e : Raised) (more : List (Nat × Fields Value)) :
    TellsPath initial (bound ++ more) (i, message, e) (s.report message e) := by
  obtain ⟨contexts, path, context⟩ := grown.lineage i s found
  refine ⟨contexts, fun other => ⟨(path.grow more).unique, ?_⟩, tells_report s contexts message e context⟩
  rintro rfl
  exact path.grow more

theorem step_bind (t : SinkTree) (i : Nat) (s : Sink) (context : Fields Value)
    (found : t.sinks[i]? = some s) (free : Text.ofString "self" ∉ Ordered.keys context) :
    t.step (.bind i context) = .ok ⟨t.sinks ++ [⟨Ordered.update s.context context⟩], t.entries⟩ := by
  simp only [step, found, s.bind_free context free]
  rfl

theorem step_report (t : SinkTree) (i : Nat) (s : Sink) (message : Text) (e : Raised)
    (found : t.sinks[i]? = some s) :
    t.step (.report i message (.ok e)) = .ok ⟨t.sinks, t.entries ++ [s.report message e]⟩ := by
  simp only [step, found]
  rfl

theorem run_cons (t u : SinkTree) (x : SinkStep) (rest : List SinkStep) (ran : t.step x = .ok u) :
    t.run (x :: rest) = u.run rest := by
  simp only [run, List.foldlM_cons, ran, bind, Except.bind]

theorem run_append (t u : SinkTree) (before rest : List SinkStep) (ran : t.run before = .ok u) :
    t.run (before ++ rest) = u.run rest := by
  unfold run at ran ⊢
  simp only [List.foldlM_append, ran, bind, Except.bind]

theorem exists_sink (t : SinkTree) (i : Nat) (there : i < t.sinks.length) : ∃ s, t.sinks[i]? = some s :=
  ⟨_, List.getElem?_eq_getElem there⟩

/-- A run goes through. Its sinks grow by what it binds, and each of its reports leaves one entry. -/
theorem grown_run (count : Nat) (steps : List SinkStep) (sound : Sound count steps) (t : SinkTree)
    (grown : Grown initial bound t) (there : t.sinks.length = count) :
    ∃ u more, t.run steps = .ok u ∧ Grown initial (bound ++ bindings steps) u ∧
      u.entries = t.entries ++ more ∧
      List.Forall₂ (TellsPath initial (bound ++ bindings steps)) (reports steps) more := by
  induction sound generalizing bound t with
  | done count =>
    have same : bound ++ bindings [] = bound := List.append_nil bound
    rw [same]
    exact ⟨t, [], rfl, grown, (List.append_nil _).symm, .nil⟩
  | bind count i context rest within free later ih =>
    obtain ⟨s, found⟩ := exists_sink t i (there ▸ within)
    have after := grown_bind t grown i s found context
    obtain ⟨u, more, ran, whole, entries, told⟩ :=
      ih _ after (by simp only [List.length_append, List.length_singleton, there])
    have all : bound ++ bindings (.bind i context :: rest) = bound ++ [(i, context)] ++ bindings rest := by
      rw [List.append_assoc]
      rfl
    rw [all]
    exact ⟨u, more, (run_cons t _ _ rest (t.step_bind i s context found free)).trans ran, whole, entries, told⟩
  | report count i message e rest within later ih =>
    obtain ⟨s, found⟩ := exists_sink t i (there ▸ within)
    have same : Grown initial bound ⟨t.sinks, t.entries ++ [s.report message e]⟩ := ⟨grown.count, grown.lineage⟩
    obtain ⟨u, more, ran, whole, entries, told⟩ := ih _ same there
    have first := tellsPath_report t grown i s found message e (bindings rest)
    refine ⟨u, s.report message e :: more, ?_, whole, ?_, .cons first told⟩
    · exact (run_cons t _ _ rest (t.step_report i s message e found)).trans ran
    · rw [entries, List.append_assoc]
      rfl

/-- The number of a sink once another was put in at a place. -/
def past (k i : Nat) : Nat := if i < k then i else i + 1

/-- The same step once another sink was put in. -/
def passing (k : Nat) : SinkStep → SinkStep
  | .bind i context => .bind (past k i) context
  | .report i message error => .report (past k i) message error

/-- The same tree with one sink more, at the place `k`. -/
structure Widened (k : Nat) (t u : SinkTree) : Prop where
  entries : u.entries = t.entries
  count : u.sinks.length = t.sinks.length + 1
  within : k ≤ t.sinks.length
  same : ∀ i, u.sinks[past k i]? = t.sinks[i]?

theorem widened_bind (t : SinkTree) (s : Sink) :
    Widened t.sinks.length t ⟨t.sinks ++ [s], t.entries⟩ := by
  refine ⟨rfl, by simp, Nat.le_refl _, fun i => ?_⟩
  unfold past
  split
  · rename_i old
    exact List.getElem?_append_left old
  · rename_i new
    rw [List.getElem?_eq_none (Nat.le_of_not_lt new), List.getElem?_eq_none]
    simp only [List.length_append, List.length_singleton]
    omega

theorem widened_append (k : Nat) (t u : SinkTree) (h : Widened k t u) (s : Sink) (i : Nat) :
    (u.sinks ++ [s])[past k i]? = (t.sinks ++ [s])[i]? := by
  have count := h.count
  have within := h.within
  rcases Nat.lt_trichotomy i t.sinks.length with old | last | beyond
  · have before : past k i < u.sinks.length := by
      unfold past
      split <;> omega
    rw [List.getElem?_append_left before, List.getElem?_append_left old, h.same i]
  · have next : past k i = u.sinks.length := by
      unfold past
      split <;> omega
    rw [next, last]
    simp
  · have after : past k i = i + 1 := by
      unfold past
      split <;> omega
    rw [after, List.getElem?_eq_none, List.getElem?_eq_none] <;>
      simp only [List.length_append, List.length_singleton] <;> omega

theorem widened_step (k : Nat) (t u t₁ : SinkTree) (h : Widened k t u) (x : SinkStep)
    (ran : t.step x = .ok t₁) : ∃ u₁, u.step (passing k x) = .ok u₁ ∧ Widened k t₁ u₁ := by
  cases x with
  | bind i context =>
    simp only [step, passing, h.same i] at ran ⊢
    cases found : t.sinks[i]? with
    | none =>
      rw [found] at ran
      cases ran
    | some s =>
      simp only [found] at ran ⊢
      cases bound : s.bind context with
      | error m =>
        rw [bound] at ran
        cases ran
      | ok n =>
        rw [bound] at ran
        cases ran
        refine ⟨_, rfl, h.entries, ?_, ?_, widened_append k t u h n⟩
        · simp only [List.length_append, List.length_singleton, h.count]
        · simp only [List.length_append]
          exact Nat.le_add_right_of_le h.within
  | report i message error =>
    simp only [step, passing, h.same i] at ran ⊢
    cases found : t.sinks[i]? with
    | none =>
      rw [found] at ran
      cases ran
    | some s =>
      simp only [found] at ran ⊢
      cases error with
      | error m => cases ran
      | ok e =>
        cases ran
        exact ⟨_, rfl, congrArg (· ++ [s.report message e]) h.entries, h.count, h.within, h.same⟩

theorem widened_run (k : Nat) (steps : List SinkStep) (t u t₁ : SinkTree) (h : Widened k t u)
    (ran : t.run steps = .ok t₁) : ∃ u₁, u.run (steps.map (passing k)) = .ok u₁ ∧ Widened k t₁ u₁ := by
  induction steps generalizing t u with
  | nil =>
    cases ran
    exact ⟨u, rfl, h⟩
  | cons x r ih =>
    cases first : t.step x with
    | error m =>
      simp only [run, List.foldlM_cons, first, bind, Except.bind] at ran
      cases ran
    | ok t₂ =>
      rw [run_cons t t₂ x r first] at ran
      obtain ⟨u₂, second, h₂⟩ := widened_step k t u t₂ h x first
      rw [List.map_cons, run_cons u u₂ _ _ second]
      exact ih t₂ u₂ h₂ ran

theorem Sound.before {count : Nat} (before rest : List SinkStep) (sound : Sound count (before ++ rest)) :
    Sound count before := by
  induction before generalizing count with
  | nil => exact .done count
  | cons x r ih =>
    cases sound with
    | bind _ i context _ within free later => exact .bind count i context r within free (ih later)
    | report _ i message e _ within later => exact .report count i message e r within (ih later)

/-- Every report leaves one entry, in order. It tells the contexts on the one path from the root to its
sink, the later ones before the earlier, and above them the error, the message and the level. One
binding more, at any point of the run and from any sink, changes no entry. -/
theorem reported_along_path (initial : Fields Value) (distinct : (Ordered.keys initial).Nodup)
    (steps : List SinkStep) (sound : Sound 1 steps) :
    ∃ t, (start initial).run steps = .ok t ∧
      List.Forall₂ (TellsPath initial (bindings steps)) (reports steps) t.entries ∧
      ∀ before rest i context, steps = before ++ rest → i ≤ (bindings before).length →
        Text.ofString "self" ∉ Ordered.keys context →
        ∃ u, (start initial).run (before ++ .bind i context ::
            rest.map (passing ((bindings before).length + 1))) = .ok u ∧ u.entries = t.entries := by
  obtain ⟨t, more, ran, _, entries, told⟩ := grown_run 1 steps sound (start initial) (grown_start distinct) rfl
  have all : t.entries = more := entries
  refine ⟨t, ran, all ▸ told, ?_⟩
  rintro before rest i context rfl there free
  obtain ⟨t₁, _, ran₁, grown₁, _⟩ :=
    grown_run 1 before (sound.before before rest) (start initial) (grown_start distinct) rfl
  have count : t₁.sinks.length = (bindings before).length + 1 := grown₁.count
  obtain ⟨s, found⟩ := exists_sink t₁ i (count ▸ Nat.lt_succ_of_le there)
  have widened := widened_bind t₁ ⟨Ordered.update s.context context⟩
  rw [run_append _ t₁ before rest ran₁] at ran
  rw [count] at widened
  obtain ⟨u, ran₂, same⟩ := widened_run _ rest t₁ _ t widened ran
  refine ⟨u, ?_, same.entries⟩
  rw [run_append _ t₁ before _ ran₁, run_cons t₁ _ _ _ (t₁.step_bind i s context found free), ran₂]

/-- Two children of the root and one of the first, all under names that a report has too. -/
theorem siblings_reported_apart :
    let initial : Fields Value := [("task", .text "all"), ("error", .null)]
    let cpu : Fields Value := [("task", .text "cpu"), ("event", .int 3)]
    let disk : Fields Value := [("task", .text "disk"), ("log_level", .text "info")]
    let host : Fields Value := [("host", .text "db")]
    let lost : Raised := .failure ⟨.timeout, []⟩
    let steps : List SinkStep := [.bind 0 cpu, .bind 0 disk, .bind 1 host, .report 3 "failed" (.ok lost),
      .report 2 "failed" (.ok lost), .report 0 "failed" (.ok lost)]
    (Ordered.keys initial).Nodup ∧ Sound 1 steps ∧
      ∃ t entry rest, (start initial).run steps = .ok t ∧ t.entries = entry :: rest ∧ rest.length = 2 ∧
        Ordered.keys entry.toFields = ["task", "error", "event", "host", "error_type", "log_level"] ∧
        Fields.get? "task" entry.toFields = some (.text "cpu") ∧
        Fields.get? "event" entry.toFields = some (.text "failed") := by
  intro initial cpu disk host lost steps
  have distinct : (Ordered.keys initial).Nodup := by decide
  have sound : Sound 1 steps :=
    .bind 1 0 cpu _ (by decide) (by decide) (.bind 2 0 disk _ (by decide) (by decide)
      (.bind 3 1 host _ (by decide) (by decide) (.report 4 3 "failed" lost _ (by decide)
        (.report 4 2 "failed" lost _ (by decide) (.report 4 0 "failed" lost _ (by decide) (.done 4))))))
  obtain ⟨t, ran, told, _⟩ := reported_along_path initial distinct steps sound
  have path : Path initial (bindings steps) 3 [initial, cpu, host] :=
    .child 2 1 host [initial, cpu] rfl (.child 0 0 cpu [initial] rfl .root)
  rcases entries : t.entries with _ | ⟨entry, rest⟩
  · rw [entries] at told
    cases told
  · rw [entries] at told
    obtain ⟨⟨contexts, only, tells⟩, others⟩ := List.forall₂_cons.mp told
    cases (only _).mp path
    refine ⟨distinct, sound, t, entry, rest, ran, entries, others.length_eq.symm, ?_, ?_, ?_⟩
    · exact tells.names.trans (by decide)
    · exact tells.values "task"
    · exact tells.values "event"

end SinkTree
end AlertRelay
