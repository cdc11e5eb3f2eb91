import AlertRelay.Courier.Session
import AlertRelay.Proofs.Exchange

/-! The books of a courier. One session is open at most, the one in hand; a new one is opened only
where the courier is asked for one and has none open in hand; and an answer that was
entered is released, whatever it ran into. -/
namespace AlertRelay.Courier

structure InOrder (c : Courier) : Prop where
  lone : ∀ i j, c.isOpen i = true → c.isOpen j = true → i = j
  held : ∀ i, c.isOpen i = true → c.held = some i
  newest : ∀ i, c.held = some i → i + 1 = c.closed.length

/-- No session is open in hand. -/
def Idle (c : Courier) : Prop := ∀ i, c.held = some i → c.isOpen i = false

/-- A courier that was idle, with a new session in hand. -/
def renewed (c : Courier) : Courier := ⟨c.closed ++ [false], some c.closed.length, c.released⟩

theorem inOrder_of_held (c : Courier) (held : ∀ i, c.isOpen i = true → c.held = some i)
    (newest : ∀ i, c.held = some i → i + 1 = c.closed.length) : c.InOrder := by
  refine ⟨fun i j hi hj => ?_, held, newest⟩
  exact Option.some.inj ((held i hi).symm.trans (held j hj))

theorem acquire_busy (c : Courier) (i : Nat) (held : c.held = some i) (isOpen : c.isOpen i = true) :
    c.acquire = (c, i) := by
  simp only [acquire, held, isOpen, if_true]

theorem acquire_idle (c : Courier) (idle : c.Idle) : c.acquire = (c.renewed, c.closed.length) := by
  unfold acquire
  split
  · rename_i i held
    simp only [idle i held, Bool.false_eq_true, if_false]
    rfl
  · rfl

theorem idle_or_busy (c : Courier) : c.Idle ∨ ∃ i, c.held = some i ∧ c.isOpen i = true := by
  cases held : c.held with
  | none =>
    refine Or.inl (fun i h => ?_)
    rw [held] at h
    cases h
  | some i =>
    cases isOpen : c.isOpen i with
    | true => exact Or.inr ⟨i, rfl, isOpen⟩
    | false =>
      refine Or.inl (fun j h => ?_)
      rw [held] at h
      exact Option.some.inj h ▸ isOpen

theorem not_idle_of_busy (c : Courier) (i : Nat) (held : c.held = some i)
    (isOpen : c.isOpen i = true) : ¬ c.Idle := by
  intro idle
  rw [idle i held] at isOpen
  cases isOpen

theorem isOpen_renewed (c : Courier) (i : Nat) :
    c.renewed.isOpen i = true ↔ c.isOpen i = true ∨ i = c.closed.length := by
  simp only [isOpen, renewed, beq_iff_eq]
  rcases Nat.lt_trichotomy i c.closed.length with h | h | h
  · simp [List.getElem?_append_left h, Nat.ne_of_lt h]
  · simp [h]
  · have long : c.closed.length ≤ i := Nat.le_of_lt h
    have past : i - c.closed.length ≠ 0 := Nat.sub_ne_zero_of_lt h
    simp [List.getElem?_append_right long, List.getElem?_eq_none long, past, Nat.ne_of_gt h]

theorem isOpen_of_set (c : Courier) (k i : Nat) (held : Option Nat) (released : Nat)
    (h : isOpen ⟨c.closed.set k true, held, released⟩ i = true) : c.isOpen i = true ∧ i ≠ k := by
  simp only [isOpen, beq_iff_eq, List.getElem?_set] at h ⊢
  split at h
  · split at h <;> cases h
  · rename_i other
    exact ⟨h, Ne.symm other⟩

theorem inOrder_renewed (c : Courier) (h : c.InOrder) (idle : c.Idle) : c.renewed.InOrder := by
  apply inOrder_of_held
  · intro i hi
    rcases (c.isOpen_renewed i).mp hi with old | new
    · have shut := idle i (h.held i old)
      rw [shut] at old
      cases old
    · exact congrArg some new.symm
  · intro i hi
    rw [← Option.some.inj hi]
    simp [renewed]

theorem inOrder_acquire (c : Courier) (h : c.InOrder) : c.acquire.1.InOrder := by
  rcases c.idle_or_busy with idle | ⟨i, held, isOpen⟩
  · rw [c.acquire_idle idle]
    exact c.inOrder_renewed h idle
  · rw [c.acquire_busy i held isOpen]
    exact h

theorem inOrder_release (c : Courier) (r : Response) (h : c.InOrder) : (c.release r).InOrder := by
  unfold release
  split
  · exact ⟨h.lone, h.held, h.newest⟩
  · exact h

theorem close_busy (c : Courier) (i : Nat) (held : c.held = some i) (isOpen : c.isOpen i = true) :
    c.close = ⟨c.closed.set i true, none, c.released⟩ := by
  simp only [close, held, isOpen, if_true]

theorem close_idle (c : Courier) (idle : c.Idle) : c.close = c := by
  unfold close
  split
  · rename_i i held
    simp only [idle i held, Bool.false_eq_true, if_false]
  · rfl

theorem isOpen_close (c : Courier) (h : c.InOrder) (i : Nat) : c.close.isOpen i = false := by
  rw [← Bool.not_eq_true]
  intro isOpen
  rcases c.idle_or_busy with idle | ⟨j, held, busy⟩
  · rw [c.close_idle idle] at isOpen
    rw [idle i (h.held i isOpen)] at isOpen
    cases isOpen
  · rw [c.close_busy j held busy] at isOpen
    obtain ⟨before, other⟩ := c.isOpen_of_set j i none c.released isOpen
    exact other (h.lone i j before busy)

theorem close_close (c : Courier) : c.close.close = c.close := by
  rcases c.idle_or_busy with idle | ⟨i, held, busy⟩
  · rw [c.close_idle idle, c.close_idle idle]
  · rw [c.close_busy i held busy]
    rfl

theorem inOrder_close (c : Courier) (h : c.InOrder) : c.close.InOrder := by
  rcases c.idle_or_busy with idle | ⟨i, held, busy⟩
  · rw [c.close_idle idle]
    exact h
  · apply inOrder_of_held
    · intro j hj
      rw [c.isOpen_close h j] at hj
      cases hj
    · intro j hj
      rw [c.close_busy i held busy] at hj
      cases hj

theorem drop?_eq_some (c d : Courier) (dropped : c.drop? = some d) :
    d = ⟨c.closed.set (c.closed.length - 1) true, c.held, c.released⟩ := by
  unfold drop? at dropped
  split at dropped
  · cases dropped
  · exact (Option.some.inj dropped).symm

theorem inOrder_drop? (c d : Courier) (h : c.InOrder) (dropped : c.drop? = some d) : d.InOrder := by
  rw [c.drop?_eq_some d dropped]
  -- The session that others closed stays in hand: it is still the newest, and no longer open.
  apply inOrder_of_held
  · intro i hi
    exact h.held i (c.isOpen_of_set _ i _ _ hi).1
  · intro i hi
    rw [h.newest i hi, List.length_set]

/-- Whether a step needs a session: a delivery to an endpoint that is enabled, or the plain wish. -/
def Asks (endpoints : List Endpoint) : Step → Prop
  | .send i data => ∃ e a, endpoints[i]? = some e ∧ e.enabled = true ∧ Alert.check data = .ok a
  | .acquire => True
  | _ => False

/-- What a step can make of a link, with the number of its requests. -/
inductive Moved (endpoints : List Endpoint) (l : Link) : Step → Link → Nat → Prop
  | keep (t : Step) (quiet : ¬ Asks endpoints t) : Moved endpoints l t l 0
  | post (t : Step) (asks : Asks endpoints t) :
      Moved endpoints l t
        ⟨l.courier.acquire.1.release (l.script.headD .ok), l.script.drop 1⟩ 1
  | acquire : Moved endpoints l .acquire ⟨l.courier.acquire.1, l.script⟩ 0
  | close : Moved endpoints l .close l.close 0
  | drop (c : Courier) (dropped : l.courier.drop? = some c) :
      Moved endpoints l .drop ⟨c, l.script⟩ 0

theorem perform_moved (endpoints : List Endpoint) (l : Link) (t : Step) :
    Moved endpoints l t (perform endpoints l t).state (perform endpoints l t).requests.length := by
  cases t with
  | send i data =>
    simp only [perform]
    cases he : endpoints[i]? with
    | none =>
      refine .keep _ ?_
      rintro ⟨e, a, found, _⟩
      rw [he] at found
      cases found
    | some e =>
      cases ha : Alert.check data with
      | error is =>
        refine .keep _ ?_
        rintro ⟨e, a, _, _, valid⟩
        rw [ha] at valid
        cases valid
      | ok a =>
        cases on : e.enabled with
        | false =>
          simp only [Link.send, Courier.send_disabled _ _ _ _ on]
          refine .keep _ ?_
          rintro ⟨f, b, found, enabled, _⟩
          rw [he] at found
          rw [← Option.some.inj found, on] at enabled
          cases enabled
        | true =>
          simp only [Link.send, Courier.send_enabled _ _ _ _ on]
          exact .post _ ⟨e, a, he, on, ha⟩
  | close => exact .close
  | acquire => exact .acquire
  | drop =>
    simp only [perform, Link.drop?]
    cases hd : l.courier.drop? with
    | none => exact .keep _ id
    | some c => exact .drop c hd

theorem inOrder_moved (endpoints : List Endpoint) (l k : Link) (t : Step) (n : Nat)
    (moved : Moved endpoints l t k n) (h : l.courier.InOrder) : k.courier.InOrder := by
  cases moved with
  | keep _ quiet => exact h
  | post _ asks => exact inOrder_release _ _ (inOrder_acquire _ h)
  | acquire => exact inOrder_acquire _ h
  | close => exact inOrder_close _ h
  | drop c dropped => exact inOrder_drop? _ c h dropped

/-- A step opens one session, if it asks for one and none is open in hand, and otherwise none. -/
def Opened (endpoints : List Endpoint) (c : Courier) (t : Step) (d : Courier) : Prop :=
  (Asks endpoints t ∧ c.Idle ∧ d.closed.length = c.closed.length + 1) ∨
  (¬ (Asks endpoints t ∧ c.Idle) ∧ d.closed.length = c.closed.length)

theorem release_books (c : Courier) (r : Response) :
    (c.release r).closed = c.closed ∧
    (c.release r).released = c.released + if r.entered then 1 else 0 := by
  unfold release
  split
  · exact ⟨rfl, rfl⟩
  · exact ⟨rfl, rfl⟩

theorem close_books (c : Courier) :
    c.close.closed.length = c.closed.length ∧ c.close.released = c.released := by
  rcases c.idle_or_busy with idle | ⟨i, held, busy⟩
  · rw [c.close_idle idle]
    exact ⟨rfl, rfl⟩
  · rw [c.close_busy i held busy]
    exact ⟨List.length_set, rfl⟩

theorem drop?_books (c d : Courier) (dropped : c.drop? = some d) :
    d.closed.length = c.closed.length ∧ d.released = c.released := by
  rw [c.drop?_eq_some d dropped]
  exact ⟨List.length_set, rfl⟩

theorem opened_acquire (endpoints : List Endpoint) (c : Courier) (t : Step) (d : Courier)
    (asks : Asks endpoints t) (same : d.closed.length = c.acquire.1.closed.length) :
    Opened endpoints c t d := by
  rcases c.idle_or_busy with idle | ⟨i, held, busy⟩
  · refine Or.inl ⟨asks, idle, ?_⟩
    rw [same, c.acquire_idle idle, renewed, List.length_append, List.length_singleton]
  · refine Or.inr ⟨fun h => c.not_idle_of_busy i held busy h.2, ?_⟩
    rw [same, c.acquire_busy i held busy]

theorem opened_moved (endpoints : List Endpoint) (l k : Link) (t : Step) (n : Nat)
    (moved : Moved endpoints l t k n) : Opened endpoints l.courier t k.courier := by
  cases moved with
  | keep _ quiet => exact Or.inr ⟨fun h => quiet h.1, rfl⟩
  | post _ asks => exact opened_acquire _ _ _ _ asks (congrArg List.length (release_books _ _).1)
  | acquire => exact opened_acquire _ _ _ _ trivial rfl
  | close => exact Or.inr ⟨fun h => h.1, (close_books _).1⟩
  | drop c dropped => exact Or.inr ⟨fun h => h.1, (drop?_books _ c dropped).1⟩

/-- How many of the first `n` requests had their answers entered. Each meets the next response of
the script, and success after the last one. -/
def entered (script : List Response) (n : Nat) : Nat :=
  (List.range n).countP (fun k => (script[k]?.getD .ok).entered)

theorem entered_succ (script : List Response) (n : Nat) :
    entered script (n + 1) =
      entered script n + if (script[n]?.getD .ok).entered then 1 else 0 := by
  simp only [entered, List.range_succ, List.countP_append, List.countP_singleton]

/-- The books of a link after `n` requests on a script. -/
structure Kept (script : List Response) (n : Nat) (l : Link) : Prop where
  order : l.courier.InOrder
  left : l.script = script.drop n
  released : l.courier.released = entered script n

theorem released_acquire (c : Courier) : c.acquire.1.released = c.released := by
  rcases c.idle_or_busy with idle | ⟨i, held, busy⟩
  · rw [c.acquire_idle idle]
    rfl
  · rw [c.acquire_busy i held busy]

theorem kept_post (script : List Response) (n : Nat) (l : Link) (h : Kept script n l) :
    Kept script (n + 1) ⟨l.courier.acquire.1.release (l.script.headD .ok), l.script.drop 1⟩ := by
  have next : l.script.headD .ok = script[n]?.getD .ok := by
    rw [h.left, List.headD_eq_head?_getD, List.head?_drop]
  refine ⟨inOrder_release _ _ (inOrder_acquire _ h.order), ?_, ?_⟩
  · rw [h.left, List.drop_drop]
  · rw [(release_books _ _).2, released_acquire, h.released, next, entered_succ]

theorem kept_moved (endpoints : List Endpoint) (script : List Response) (n m : Nat) (l k : Link)
    (t : Step) (moved : Moved endpoints l t k m) (h : Kept script n l) : Kept script (n + m) k := by
  have order := inOrder_moved endpoints l k t m moved h.order
  cases moved with
  | keep _ quiet => exact h
  | acquire => exact ⟨order, h.left, (released_acquire _).trans h.released⟩
  | close => exact ⟨order, h.left, (close_books _).2.trans h.released⟩
  | drop c dropped => exact ⟨order, h.left, (drop?_books _ c dropped).2.trans h.released⟩
  | post _ asks => exact kept_post script n l h

theorem run_append (endpoints : List Endpoint) (l : Link) (before rest : List Step) :
    run endpoints l (before ++ rest) =
      run endpoints l before ++ run endpoints (after endpoints l before) rest := by
  induction before generalizing l with
  | nil => rfl
  | cons t r ih => exact congrArg (perform endpoints l t :: ·) (ih (perform endpoints l t).state)

def posted (endpoints : List Endpoint) (l : Link) (steps : List Step) : List Request :=
  (run endpoints l steps).flatMap Outcome.requests

theorem posted_snoc (endpoints : List Endpoint) (l : Link) (before : List Step) (t : Step) :
    (posted endpoints l (before ++ [t])).length = (posted endpoints l before).length +
      (perform endpoints (after endpoints l before) t).requests.length := by
  simp only [posted, run_append, List.flatMap_append, List.length_append, run, List.flatMap_cons,
    List.flatMap_nil, List.append_nil]

theorem kept_after (endpoints : List Endpoint) (script : List Response) (n : Nat) (l : Link)
    (steps : List Step) (h : Kept script n l) :
    Kept script (n + (posted endpoints l steps).length) (after endpoints l steps) := by
  induction steps generalizing n l with
  | nil => exact h
  | cons t r ih =>
    have head := kept_moved endpoints script n _ l _ t (perform_moved endpoints l t) h
    have tail := ih _ (perform endpoints l t).state head
    -- The responses that are left depend on the requests so far, so the count goes along.
    have total : (posted endpoints l (t :: r)).length = (perform endpoints l t).requests.length +
        (posted endpoints (perform endpoints l t).state r).length := by
      simp only [posted, run, List.flatMap_cons, List.length_append]
    rw [total, ← Nat.add_assoc]
    exact tail

theorem kept_start (script : List Response) : Kept script 0 ⟨start, script⟩ := by
  refine ⟨inOrder_of_held start (fun i h => ?_) (fun i h => ?_), rfl, rfl⟩
  · simp [start, isOpen] at h
  · cases h

/-- After every step of every run the books are in order: which session is open, when a new one
was opened, and how many answers were released. Closing leaves none open, and closing
again changes nothing. -/
theorem books_in_order (endpoints : List Endpoint) (script : List Response) (before : List Step)
    (t : Step) :
    let l := after endpoints ⟨start, script⟩ before
    let o := perform endpoints l t
    let shut := perform endpoints o.state .close
    o.state.courier.InOrder ∧ Opened endpoints l.courier t o.state.courier ∧
    o.state.courier.released =
      entered script (posted endpoints ⟨start, script⟩ (before ++ [t])).length ∧
    (∀ i, shut.state.courier.isOpen i = false) ∧ perform endpoints shut.state .close = shut := by
  intro l o shut
  have moved := perform_moved endpoints l t
  have kept := kept_after endpoints script 0 _ before (kept_start script)
  rw [Nat.zero_add] at kept
  have done := kept_moved endpoints script _ _ l o.state t moved kept
  rw [← posted_snoc] at done
  refine ⟨done.order, opened_moved endpoints l _ t _ moved, done.released, ?_, ?_⟩
  · intro i
    exact isOpen_close o.state.courier done.order i
  · have again : shut.state.close = shut.state := by
      simp only [shut, perform, Link.close, close_close]
    simp only [perform, again]
    rfl

-- A session that others closed is still in hand after a close, and the next wish replaces it.
example : (after [] ⟨start, []⟩ [.acquire, .drop, .close, .acquire]).courier =
    ⟨[true, false], some 1, 0⟩ := rfl

end AlertRelay.Courier
