import AlertRelay.Live

/-! Which proposals put an endpoint in force: those with one item that makes an endpoint, and no
others. Any other proposal is a problem, and then there is nothing to put in force. -/
namespace AlertRelay

namespace Item

def endpoint? : Item → Option Endpoint
  | .endpoint data => (Endpoint.check data).toOption
  | .narrowed => some .default
  | _ => none

theorem make_endpoint (next : Nat) (i : Item) (e : Endpoint) (h : i.endpoint? = some e) :
    i.make next = .ok (.endpoint ⟨next, e⟩, next + 1) := by
  cases i with
  | endpoint data =>
    simp only [endpoint?] at h
    cases hc : Endpoint.check data with
    | error is => simp [hc, Except.toOption] at h
    | ok e₁ =>
      rw [hc] at h
      cases Option.some.inj h
      simp only [make, hc]
      rfl
  | narrowed =>
    cases Option.some.inj h
    rfl
  | _ => cases h

theorem make_other (next : Nat) (i : Item) (h : i.endpoint? = none) :
    (∃ p, i.make next = .error p) ∨ i.make next = .ok (.other i.typeName, next) := by
  cases i with
  | endpoint data =>
    simp only [endpoint?] at h
    cases hc : Endpoint.check data with
    | error is =>
      refine Or.inl ⟨.invalid is, ?_⟩
      simp only [make, hc]
      rfl
    | ok e => simp [hc, Except.toOption] at h
  | narrowed => cases h
  | _ => exact Or.inr rfl

theorem makeAll_length (next : Nat) (is : List Item) (cs : List Candidate) (n : Nat)
    (h : makeAll next is = .ok (cs, n)) : cs.length = is.length := by
  induction is generalizing next cs n with
  | nil =>
    cases Except.ok.inj h
    rfl
  | cons i r ih =>
    simp only [makeAll, bind, Except.bind] at h
    split at h
    · cases h
    · split at h
      · cases h
      · rename_i tail ht
        cases Except.ok.inj h
        exact congrArg (· + 1) (ih _ _ _ ht)

end Item

namespace Proposal

/-- The endpoint that a proposal puts in force: that of its only item. -/
def endpoint? : Proposal → Option Endpoint
  | .items [i] => i.endpoint?
  | _ => none

end Proposal

namespace Batch

theorem first_raw (v : Value) (c : Candidate) (h : (Batch.raw v).first = .ok c) :
    ∃ type, c = .other type := by
  unfold first at h
  split at h
  · rename_i cs heq
    cases heq
  · split at h
    · exact ⟨_, (Except.ok.inj h).symm⟩
    · cases h
  · cases h
  · split at h
    · exact ⟨_, (Except.ok.inj h).symm⟩
    · cases h

/-- A value in place of a batch never has an endpoint. -/
theorem sole_raw (v : Value) : ∃ p, (Batch.raw v).sole = .error p := by
  unfold sole
  cases (Batch.raw v).size with
  | error m => exact ⟨_, rfl⟩
  | ok n =>
    simp only [Problem.ofMisused_ok, bind, Except.bind]
    split
    · cases hf : (Batch.raw v).first with
      | error m => exact ⟨_, rfl⟩
      | ok c =>
        obtain ⟨type, rfl⟩ := first_raw v c hf
        exact ⟨_, rfl⟩
    · exact ⟨_, rfl⟩

theorem sole_of_length (cs : List Candidate) (h : cs.length ≠ 1) :
    (Batch.members cs).sole = .error (.adapter (.cardinality (.int cs.length))) := by
  simp only [sole, size, Problem.ofMisused_ok, bind, Except.bind, if_neg h]

end Batch

/-- A proposal of one endpoint is accepted as that endpoint, under the next number. -/
theorem Proposal.accepted (p : Proposal) (next : Nat) (e : Endpoint) (h : p.endpoint? = some e) :
    ∃ cs, p.make next = .ok (.members cs, next + 1) ∧ (Batch.members cs).sole = .ok ⟨next, e⟩ := by
  unfold endpoint? at h
  split at h
  · rename_i i
    refine ⟨[.endpoint ⟨next, e⟩], ?_, rfl⟩
    simp only [make, Item.makeAll, i.make_endpoint next e h, bind, Except.bind]
    rfl
  · cases h

/-- Any other proposal cannot be made, or is refused. -/
theorem Proposal.refused (p : Proposal) (next : Nat) (h : p.endpoint? = none) :
    (∃ x, p.make next = .error x) ∨ ∃ b n x, p.make next = .ok (b, n) ∧ b.sole = .error x := by
  cases p with
  | raw v =>
    obtain ⟨x, hx⟩ := Batch.sole_raw v
    exact Or.inr ⟨.raw v, next, x, rfl, hx⟩
  | items is =>
    cases hm : Item.makeAll next is with
    | error x => exact Or.inl ⟨x, by simp only [make, hm, Except.map]⟩
    | ok out =>
      obtain ⟨cs, n⟩ := out
      have made : (Proposal.items is).make next = .ok (.members cs, n) := by
        simp only [make, hm, Except.map]
      have size := Item.makeAll_length next is cs n hm
      by_cases one : cs.length = 1
      · obtain ⟨i, rfl⟩ := List.length_eq_one_iff.mp (size ▸ one)
        rcases i.make_other next h with ⟨x, hx⟩ | hx
        · simp only [Item.makeAll, hx, bind, Except.bind] at hm
          cases hm
        · simp only [Item.makeAll, hx, bind, Except.bind] at hm
          cases Except.ok.inj hm
          exact Or.inr ⟨_, _, _, made, rfl⟩
      · exact Or.inr ⟨_, _, _, made, Batch.sole_of_length cs one⟩

end AlertRelay
