import AlertRelay.Proofs.Proposals
import Mathlib.Data.List.Forall2

/-! Two runs that differ in something. Two results agree if both are the same problem, or both are
values that a given relation connects. Proposals whose endpoints are connected one by one
make batches, and put endpoints in force, that are connected again. -/
namespace AlertRelay

inductive Agree {α β : Type} (R : α → β → Prop) : Except Problem α → Except Problem β → Prop
  | ok (a : α) (b : β) (h : R a b) : Agree R (.ok a) (.ok b)
  | error (p : Problem) : Agree R (.error p) (.error p)

theorem Agree.refl {α : Type} {R : α → α → Prop} (refl : ∀ a, R a a) (x : Except Problem α) :
    Agree R x x := by
  cases x with
  | error p => exact .error p
  | ok a => exact .ok a a (refl a)

theorem Agree.eq {α : Type} {x y : Except Problem α} (h : Agree (· = ·) x y) : x = y := by
  cases h with
  | ok a b h => exact congrArg Except.ok h
  | error p => rfl

theorem Agree.bind {α β γ δ : Type} {R : α → β → Prop} {S : γ → δ → Prop} {x : Except Problem α}
    {y : Except Problem β} {f : α → Except Problem γ} {g : β → Except Problem δ}
    (h : Agree R x y) (next : ∀ a b, R a b → Agree S (f a) (g b)) :
    Agree S (x >>= f) (y >>= g) := by
  cases h with
  | ok a b h => exact next a b h
  | error p => exact .error p

theorem Agree.map {α β γ δ : Type} {R : α → β → Prop} {S : γ → δ → Prop} {x : Except Problem α}
    {y : Except Problem β} {f : α → γ} {g : β → δ}
    (h : Agree R x y) (next : ∀ a b, R a b → S (f a) (g b)) : Agree S (x.map f) (y.map g) := by
  cases h with
  | ok a b h => exact .ok _ _ (next a b h)
  | error p => exact .error p

/- From here on a relation on endpoints is given. -/
variable (R : Endpoint → Endpoint → Prop)

/-- Items that are the same, or make endpoints in relation. -/
inductive Item.Alike : Item → Item → Prop
  | same (i : Item) : Alike i i
  | endpoint (data data₁ : Raw) (e e₁ : Endpoint) (made : Endpoint.check data = .ok e)
      (made₁ : Endpoint.check data₁ = .ok e₁) (h : R e e₁) :
      Alike (.endpoint data) (.endpoint data₁)

inductive Candidate.Alike : Candidate → Candidate → Prop
  | same (c : Candidate) : Alike c c
  | endpoint (serial : Nat) (e e₁ : Endpoint) (h : R e e₁) :
      Alike (.endpoint ⟨serial, e⟩) (.endpoint ⟨serial, e₁⟩)

inductive Batch.Alike : Batch → Batch → Prop
  | members (cs cs₁ : List Candidate) (h : List.Forall₂ (Candidate.Alike R) cs cs₁) :
      Alike (.members cs) (.members cs₁)
  | raw (v : Value) : Alike (.raw v) (.raw v)

inductive Proposal.Alike : Proposal → Proposal → Prop
  | items (is is₁ : List Item) (h : List.Forall₂ (Item.Alike R) is is₁) :
      Alike (.items is) (.items is₁)
  | raw (v : Value) : Alike (.raw v) (.raw v)

variable {R}

theorem Proposal.Alike.refl (p : Proposal) : p.Alike R p := by
  cases p with
  | items is => exact .items is is (List.forall₂_same.mpr (fun i _ => .same i))
  | raw v => exact .raw v

theorem Item.make_alike (next : Nat) (i j : Item) (h : i.Alike R j) :
    Agree (fun x y => x.1.Alike R y.1 ∧ x.2 = y.2) (i.make next) (j.make next) := by
  cases h with
  | same => exact .refl (fun x => ⟨.same x.1, rfl⟩) _
  | endpoint data data₁ e e₁ made made₁ h =>
    simp only [make, made, made₁]
    exact .ok _ _ ⟨.endpoint next e e₁ h, rfl⟩

theorem Item.makeAll_agree {Good : Item → Item → Prop}
    (one : ∀ next i j, Good i j →
      Agree (fun x y => x.1.Alike R y.1 ∧ x.2 = y.2) (i.make next) (j.make next))
    (next : Nat) (is js : List Item) (h : List.Forall₂ Good is js) :
    Agree (fun x y => List.Forall₂ (Candidate.Alike R) x.1 y.1 ∧ x.2 = y.2)
      (makeAll next is) (makeAll next js) := by
  induction h generalizing next with
  | nil => exact .ok _ _ ⟨.nil, rfl⟩
  | cons hij _ ih =>
    simp only [makeAll]
    apply Agree.bind (one next _ _ hij)
    rintro ⟨c, n⟩ ⟨c₁, n₁⟩ ⟨hc, rfl⟩
    apply Agree.bind (ih n)
    rintro ⟨cs, m⟩ ⟨cs₁, m₁⟩ ⟨hcs, rfl⟩
    exact .ok _ _ ⟨.cons hc hcs, rfl⟩

theorem Item.makeAll_alike (next : Nat) (is js : List Item) (h : List.Forall₂ (Item.Alike R) is js) :
    Agree (fun x y => List.Forall₂ (Candidate.Alike R) x.1 y.1 ∧ x.2 = y.2)
      (makeAll next is) (makeAll next js) :=
  makeAll_agree make_alike next is js h

theorem Proposal.make_alike (next : Nat) (p q : Proposal) (h : p.Alike R q) :
    Agree (fun x y => x.1.Alike R y.1 ∧ x.2 = y.2) (p.make next) (q.make next) := by
  cases h with
  | raw v => exact .ok _ _ ⟨.raw v, rfl⟩
  | items is is₁ h =>
    exact Agree.map (Item.makeAll_alike next is is₁ h) (fun x y hxy => ⟨.members _ _ hxy.1, hxy.2⟩)

theorem Batch.sole_alike (refl : ∀ e, R e e) (b c : Batch) (h : b.Alike R c) :
    Agree (fun i j => R i.endpoint j.endpoint) b.sole c.sole := by
  cases h with
  | raw v => exact .refl (fun i => refl i.endpoint) _
  | members cs cs₁ h =>
    have length := h.length_eq
    by_cases one : cs.length = 1
    · obtain ⟨c, rfl⟩ := List.length_eq_one_iff.mp one
      obtain ⟨d, rfl⟩ := List.length_eq_one_iff.mp (length ▸ one)
      cases h with
      | cons hc _ =>
        cases hc with
        | endpoint serial e e₁ h => exact .ok _ _ h
        | same =>
          cases c with
          | endpoint i => exact .ok i i (refl i.endpoint)
          | other type => exact .error _
    · rw [sole_of_length cs one, sole_of_length cs₁ (length ▸ one), length]
      exact .error _

end AlertRelay
