import AlertRelay.Proofs.Snapshots

/-! Steps by description. A step gives the endpoint that it describes, if it describes one, under a
number of its own, so a session never gives one endpoint twice. -/
namespace AlertRelay

theorem Item.make_le (next : Nat) (i : Item) (c : Candidate) (n : Nat)
    (made : i.make next = .ok (c, n)) : next ≤ n := by
  cases described : i.endpoint? with
  | some e =>
    rw [i.make_endpoint next e described] at made
    cases made
    exact Nat.le_succ next
  | none =>
    rcases i.make_other next described with ⟨x, unmade⟩ | other
    · rw [unmade] at made
      cases made
    · rw [other] at made
      cases made
      exact Nat.le_refl next

theorem Item.makeAll_le (next : Nat) (is : List Item) (cs : List Candidate) (n : Nat)
    (made : makeAll next is = .ok (cs, n)) : next ≤ n := by
  induction is generalizing next cs n with
  | nil =>
    cases made
    exact Nat.le_refl next
  | cons i r ih =>
    simp only [makeAll, bind, Except.bind] at made
    split at made
    · cases made
    · rename_i head hi
      split at made
      · cases made
      · rename_i tail hr
        cases made
        exact Nat.le_trans (i.make_le next _ _ hi) (ih _ _ _ hr)

theorem Proposal.make_le (next : Nat) (p : Proposal) (b : Batch) (n : Nat)
    (made : p.make next = .ok (b, n)) : next ≤ n := by
  cases p with
  | raw v =>
    cases made
    exact Nat.le_refl next
  | items is =>
    simp only [make] at made
    cases all : Item.makeAll next is with
    | error x =>
      rw [all] at made
      cases made
    | ok out =>
      rw [all] at made
      cases made
      exact Item.makeAll_le next is out.1 out.2 all

namespace Live

/-- The endpoint that a step describes. -/
def Step.endpoint? : Step → Option Endpoint
  | .store data => (Endpoint.check data).toOption
  | .update p => p.endpoint?
  | _ => none

/-- What a step makes when the next number is `next`: a move that gives the described endpoint
under that number, or no move if it describes none. -/
structure Makes (next : Nat) (t : Step) (m : Move) (n : Nat) : Prop where
  given : m.given? = t.endpoint?.map (Issued.mk next)
  le : next ≤ n
  lt : m.given? ≠ none → next < n

theorem makes_nothing (next : Nat) (t : Step) (m : Move) (given : m.given? = none)
    (described : t.endpoint? = none) : Makes next t m next :=
  ⟨by rw [given, described]; rfl, Nat.le_refl next, fun h => absurd given h⟩

theorem makes_update (next : Nat) (p : Proposal) (b : Batch) (n : Nat)
    (made : p.make next = .ok (b, n)) : Makes next (.update p) (.update b) n := by
  have le := p.make_le next b n made
  cases described : p.endpoint? with
  | some e =>
    obtain ⟨cs, accepted, sole⟩ := p.accepted next e described
    rw [accepted] at made
    cases made
    have given := (given?_update _ _).mpr ((Batch.sole_eq_ok_iff _ _).mp sole)
    refine ⟨?_, le, fun _ => Nat.lt_succ_self next⟩
    simp only [given, Step.endpoint?, described, Option.map_some]
  | none =>
    have given : Move.given? (.update b) = none := by
      rcases p.refused next described with ⟨x, unmade⟩ | ⟨c, k, x, made₁, refused⟩
      · rw [unmade] at made
        cases made
      · rw [made] at made₁
        cases made₁
        refine Option.eq_none_iff_forall_ne_some.mpr (fun i given => ?_)
        rw [(Batch.sole_eq_ok_iff b i).mpr ((given?_update b i).mp given)] at refused
        cases refused
    refine ⟨?_, le, fun h => absurd given h⟩
    simp only [given, Step.endpoint?, described, Option.map_none]

theorem make_makes (next : Nat) (t : Step) (m : Move) (n : Nat) (made : t.make next = .ok (m, n)) :
    Makes next t m n := by
  cases t with
  | store data =>
    cases checked : Endpoint.check data with
    | error is =>
      simp only [Step.make, checked] at made
      cases made
    | ok e =>
      simp only [Step.make, checked] at made
      cases made
      refine ⟨?_, Nat.le_succ next, fun _ => Nat.lt_succ_self next⟩
      simp only [Step.endpoint?, checked]
      rfl
  | update p =>
    cases proposed : p.make next with
    | error x =>
      simp only [Step.make, proposed] at made
      cases made
    | ok out =>
      simp only [Step.make, proposed] at made
      cases made
      exact makes_update next p out.1 out.2 proposed
  | current | hold | held | assign =>
    cases made
    exact makes_nothing next _ _ rfl rfl

theorem make_unmade (next : Nat) (t : Step) (x : Problem) (unmade : t.make next = .error x) :
    t.endpoint? = none := by
  cases t with
  | store data =>
    cases checked : Endpoint.check data with
    | error is =>
      simp only [Step.endpoint?, checked]
      rfl
    | ok e =>
      simp only [Step.make, checked] at unmade
      cases unmade
  | update p =>
    cases described : p.endpoint? with
    | none => exact described
    | some e =>
      obtain ⟨cs, made, _⟩ := p.accepted next e described
      simp only [Step.make, made] at unmade
      cases unmade
  | current | hold | held | assign => cases unmade

namespace Session

theorem endpoint_step (s : Session) (t : Step) :
    (s.step t).1.cell.live.current.endpoint = t.endpoint?.getD s.cell.live.current.endpoint := by
  cases made : t.make s.next with
  | error x => simp only [step, made, make_unmade s.next t x made, Option.getD_none]
  | ok out =>
    obtain ⟨m, n⟩ := out
    have given := (make_makes s.next t m n made).given
    simp only [step, made, Cell.current_move, given]
    cases t.endpoint? <;> rfl

/-- The moves that the steps of a session make. -/
def moves (s : Session) : List Step → List Move
  | [] => []
  | t :: r => match t.make s.next with
    | .ok (m, _) => m :: (s.step t).1.moves r
    | .error _ => (s.step t).1.moves r

theorem cell_after (s : Session) (steps : List Step) :
    (s.after steps).cell = s.cell.after (s.moves steps) := by
  induction steps generalizing s with
  | nil => rfl
  | cons t r ih =>
    rw [after, ih, moves]
    cases made : t.make s.next with
    | error x => simp only [step, made]
    | ok out => simp only [step, made, Cell.after]

/-- The endpoints that a session is given by its steps, in their order. -/
def given (s : Session) (steps : List Step) : List Issued := (s.moves steps).filterMap Move.given?

theorem given_cons (s : Session) (t : Step) (r : List Step) :
    (s.given (t :: r) = (s.step t).1.given r ∧ s.next ≤ (s.step t).1.next) ∨
    ∃ e, s.given (t :: r) = ⟨s.next, e⟩ :: (s.step t).1.given r ∧ s.next < (s.step t).1.next := by
  simp only [given, moves]
  cases made : t.make s.next with
  | error x =>
    have same : (s.step t).1 = s := by simp only [step, made]
    rw [same]
    exact Or.inl ⟨rfl, Nat.le_refl s.next⟩
  | ok out =>
    obtain ⟨m, n⟩ := out
    have makes := make_makes s.next t m n made
    have next : (s.step t).1.next = n := by simp only [step, made]
    rw [next]
    cases put : m.given? with
    | none =>
      refine Or.inl ⟨?_, makes.le⟩
      simp only [List.filterMap_cons, put]
    | some i =>
      obtain ⟨e, _, rfl⟩ := Option.map_eq_some_iff.mp (makes.given.symm.trans put)
      refine Or.inr ⟨e, ?_, makes.lt (by simp [put])⟩
      simp only [List.filterMap_cons, put]

theorem le_given (s : Session) (steps : List Step) (i : Issued) (h : i ∈ s.given steps) :
    s.next ≤ i.serial := by
  induction steps generalizing s with
  | nil => cases h
  | cons t r ih =>
    rcases s.given_cons t r with ⟨same, le⟩ | ⟨e, more, lt⟩
    · rw [same] at h
      exact Nat.le_trans le (ih _ h)
    · rw [more] at h
      rcases List.mem_cons.mp h with rfl | later
      · exact Nat.le_refl s.next
      · exact Nat.le_trans (Nat.le_of_lt lt) (ih _ later)

theorem nodup_given (s : Session) (steps : List Step) :
    ((s.given steps).map Issued.serial).Nodup := by
  induction steps generalizing s with
  | nil => exact List.nodup_nil
  | cons t r ih =>
    rcases s.given_cons t r with ⟨same, _⟩ | ⟨e, more, lt⟩
    · rw [same]
      exact ih _
    · rw [more, List.map_cons, List.nodup_cons]
      refine ⟨fun again => ?_, ih _⟩
      obtain ⟨i, later, number⟩ := List.mem_map.mp again
      have past : s.next < i.serial := Nat.lt_of_lt_of_le lt (le_given _ r i later)
      exact Nat.ne_of_gt past number

/-- A session is a run of moves in which no endpoint is given twice. -/
theorem fresh_run (data : Raw) (s : Session) (started : start data = .ok s) (steps : List Step) :
    ∃ first, s.cell = .start first ∧ Fresh first (s.moves steps) ∧
      (s.after steps).cell = (Cell.start first).after (s.moves steps) := by
  cases checked : Endpoint.check data with
  | error is =>
    simp only [start, checked] at started
    cases started
  | ok e =>
    simp only [start, checked] at started
    cases started
    refine ⟨⟨0, e⟩, rfl, ?_, cell_after _ steps⟩
    simp only [Fresh, List.map_cons, List.nodup_cons]
    refine ⟨fun again => ?_, nodup_given _ steps⟩
    obtain ⟨i, later, number⟩ := List.mem_map.mp again
    have le : 1 ≤ i.serial := le_given _ steps i later
    omega

end Session
end Live
end AlertRelay
