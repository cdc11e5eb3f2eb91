import AlertRelay.Proofs.Agreement
import AlertRelay.Proofs.Pairing
import AlertRelay.Proofs.Steps

/-! Data that differ in what stays here: rooms, the message of a self-test, and of an event all but
its level. Where the rooms are to be the same as well, `rooms` holds. Data of this kind are
checked with the same issues, and what is made of them differs in the same places only. -/
namespace AlertRelay

/-- Two checks that find the same issues, or results that `R` connects. -/
inductive Checked.Alike {α β : Type} (R : α → β → Prop) : Checked α → Checked β → Prop
  | ok (a : α) (b : β) (h : R a b) : Alike R (.ok a) (.ok b)
  | error (is : List Issue) : Alike R (.error is) (.error is)

namespace Checked.Alike

variable {α β γ δ : Type} {R : α → β → Prop} {S : γ → δ → Prop}

theorem refl {R : α → α → Prop} (refl : ∀ a, R a a) (x : Checked α) : Alike R x x := by
  cases x with
  | error is => exact .error is
  | ok a => exact .ok a a (refl a)

theorem both {x : Checked α} {y : Checked β} {z : Checked γ} {w : Checked δ} (h : Alike R x y)
    (k : Alike S z w) : Alike (fun p q => R p.1 q.1 ∧ S p.2 q.2) (x.both z) (y.both w) := by
  cases h with
  | ok a b h =>
    cases k with
    | ok c d k => exact .ok _ _ ⟨h, k⟩
    | error js => exact .error js
  | error is =>
    cases k with
    | ok c d k => exact .error is
    | error js => exact .error (is ++ js)

theorem map {f : α → γ} {g : β → δ} {x : Checked α} {y : Checked β} (h : Alike R x y)
    (next : ∀ a b, R a b → S (f a) (g b)) : Alike S (x.map f) (y.map g) := by
  cases h with
  | ok a b h => exact .ok _ _ (next a b h)
  | error is => exact .error is

theorem bind {f : α → Checked γ} {g : β → Checked δ} {x : Checked α} {y : Checked β}
    (h : Alike R x y) (next : ∀ a b, R a b → Alike S (f a) (g b)) :
    Alike S (Except.bind x f) (Except.bind y g) := by
  cases h with
  | ok a b h => exact next a b h
  | error is => exact .error is

theorem agree {x : Checked α} {y : Checked β} (h : Alike R x y) :
    Agree R (Problem.ofChecked x) (Problem.ofChecked y) := by
  cases h with
  | ok a b h => exact .ok a b h
  | error is => exact .error (.invalid is)

end Checked.Alike

namespace Raw

/-- Data that differ at most under some names. -/
def SameBut (names : List Text) (d d₁ : Raw) : Prop := ∀ name ∉ names, d.get? name = d₁.get? name

/-- A field that is valid in both, and where `same` holds the same in both. -/
def BothValid {α : Type} (same : Prop) (name : Text) (check : Value → Checked α) (absent : α)
    (d d₁ : Raw) : Prop :=
  ∃ a a₁, d.field name check absent = .ok a ∧ d₁.field name check absent = .ok a₁ ∧ (same → a = a₁)

variable {names : List Text} {d d₁ : Raw} {α : Type}

theorem SameBut.refl (d : Raw) : d.SameBut names d := fun _ _ => rfl

theorem SameBut.cons_listed (h : d.SameBut names d₁) (name : Text) (listed : name ∈ names)
    (v w : Value) : Raw.SameBut names ((.text name, v) :: d) ((.text name, w) :: d₁) := by
  intro name₁ other
  have apart : (Scalar.text name == Scalar.text name₁) = false := by
    rw [sameKey_text]
    exact beq_eq_false_iff_ne.mpr (fun same => other (same ▸ listed))
  have rest := h name₁ other
  simp only [get?, Ordered.get?, apart, Bool.false_eq_true, if_false] at rest ⊢
  exact rest

theorem SameBut.field (h : d.SameBut names d₁) (name : Text) (other : name ∉ names)
    (check : Value → Checked α) (absent : α) :
    Checked.Alike (· = ·) (d.field name check absent) (d₁.field name check absent) := by
  unfold Raw.field
  rw [h name other]
  exact .refl (fun _ => rfl) _

theorem SameBut.aliased (h : d.SameBut names d₁) (other name : Text) (first : other ∉ names)
    (second : name ∉ names) (check : Value → Checked α) (absent : α) :
    Checked.Alike (· = ·) (d.aliased other name check absent) (d₁.aliased other name check absent) := by
  unfold Raw.aliased
  rw [h other first]
  cases d₁.get? other with
  | none => exact h.field name second check absent
  | some v => exact .refl (fun _ => rfl) _

theorem BothValid.alike {same : Prop} {name : Text} {check : Value → Checked α} {absent : α}
    (h : BothValid same name check absent d d₁) :
    Checked.Alike (fun a b => same → a = b) (d.field name check absent)
      (d₁.field name check absent) := by
  obtain ⟨a, a₁, ha, ha₁, equal⟩ := h
  rw [ha, ha₁]
  exact .ok a a₁ equal

/-- Data that differ at most in the room. -/
structure SameButRoom (rooms : Prop) (d d₁ : Raw) : Prop where
  rest : d.SameBut ["room"] d₁
  room : BothValid rooms "room" Check.text "" d d₁

structure SameButRoomAndMessage (rooms : Prop) (d d₁ : Raw) : Prop where
  rest : d.SameBut ["room", "message"] d₁
  room : BothValid rooms "room" Check.text "" d d₁
  message : BothValid False "message" Check.text "" d d₁

/-- Data of events that differ at most in what is no level. -/
structure SameLevel (d d₁ : Raw) : Prop where
  rest : d.SameBut ["id", "message", "details", "time"] d₁
  id : BothValid False "id" Check.text "" d d₁
  message : BothValid False "message" Check.text "" d d₁
  details : BothValid False "details" Check.text "" d d₁
  time : BothValid False "time" (fun v => (Check.float v).map some) none d d₁

end Raw

theorem Event.check_sameLevel {d d₁ : Raw} (h : d.SameLevel d₁) :
    Checked.Alike (fun e e₁ => e.level = e₁.level) (Event.check d) (Event.check d₁) := by
  have level := h.rest.field "level" (by decide) Level.check .ok
  have fields := h.id.alike.both (h.message.alike.both (h.details.alike.both
    (level.both h.time.alike)))
  refine fields.map ?_
  rintro ⟨_, _, _, l, _⟩ ⟨_, _, _, l₁, _⟩ ⟨_, _, _, same, _⟩
  exact same

variable (rooms : Prop)

def Rule.SameButRoom (r r₁ : Rule) : Prop := { r with room := r₁.room } = r₁ ∧ (rooms → r.room = r₁.room)

def EndpointFields.SameButRoom (f g : EndpointFields) : Prop :=
  { f with room := g.room } = g ∧ (rooms → f.room = g.room)

def Endpoint.SameButRoom (e f : Endpoint) : Prop :=
  e.toEndpointFields.SameButRoom rooms f.toEndpointFields

variable {rooms}

theorem Rule.check_sameButRoom {d d₁ : Raw} {hidden : List Text} (rest : d.SameBut hidden d₁)
    (listed : ∀ name ∈ hidden, name = "room" ∨ name = "message")
    (room : Raw.BothValid rooms "room" Check.text "" d d₁) :
    Checked.Alike (Rule.SameButRoom rooms) (Rule.check d) (Rule.check d₁) := by
  have other {name : Text} (h : ¬ (name = "room" ∨ name = "message")) : name ∉ hidden :=
    fun member => h (listed name member)
  have names (first second : Text) (h : ¬ (first = "room" ∨ first = "message"))
      (k : ¬ (second = "room" ∨ second = "message")) :=
    rest.aliased first second (other h) (other k) (Check.texts .listType) []
  have fields := room.alike.both
    ((names "alertManagerTagName" "label_names" (by decide) (by decide)).both
      ((names "alertManagerTagValue" "label_values" (by decide) (by decide)).both
        ((names "alertManagerAnnotationName" "annotation_names" (by decide) (by decide)).both
          (names "alertManagerAnnotationValue" "annotation_values" (by decide) (by decide)))))
  refine fields.map ?_
  rintro ⟨r, ln, lv, an, av⟩ ⟨r₁, _, _, _, _⟩ ⟨room, rfl, rfl, rfl, rfl⟩
  exact ⟨rfl, room⟩

theorem TestRule.check_sameButRoom {d d₁ : Raw} (h : d.SameButRoomAndMessage rooms d₁) :
    Checked.Alike (fun r r₁ => r.toRule.SameButRoom rooms r₁.toRule) (TestRule.check d)
      (TestRule.check d₁) := by
  have rule := Rule.check_sameButRoom h.rest (by decide) h.room
  exact (rule.both h.message.alike).map (fun _ _ same => same.1)

theorem Endpoint.checkFields_sameButRoom {d d₁ : Raw} (h : d.SameButRoom rooms d₁) :
    Checked.Alike (EndpointFields.SameButRoom rooms) (checkFields d) (checkFields d₁) := by
  have enabled := h.rest.field "enabled" (by decide) Check.bool false
  have url := h.rest.field "url" (by decide) Check.secret ""
  have names (name : Text) (other : name ∉ (["room"] : List Text)) :=
    h.rest.field name other (Check.texts .tupleType) []
  have fields := enabled.both (url.both (h.room.alike.both
    ((names "test_label_names" (by decide)).both ((names "test_label_values" (by decide)).both
      ((names "test_annotation_names" (by decide)).both
        (names "test_annotation_values" (by decide)))))))
  refine fields.map ?_
  rintro ⟨e, u, r, ln, lv, an, av⟩ ⟨_, _, r₁, _, _, _, _⟩ ⟨rfl, rfl, room, rfl, rfl, rfl, rfl⟩
  exact ⟨rfl, room⟩

theorem EndpointFields.SameButRoom.address {f g : EndpointFields} (h : f.SameButRoom rooms g) :
    f.enabled = g.enabled ∧ f.url = g.url := by
  obtain ⟨_, _, _, _, _, _, _⟩ := f
  obtain ⟨_, _, _, _, _, _, _⟩ := g
  obtain ⟨same, _⟩ := h
  cases same
  exact ⟨rfl, rfl⟩

/-- The address is the same, so both endpoints are refused for it or neither is. -/
theorem Endpoint.check_sameButRoom {d d₁ : Raw} (h : d.SameButRoom rooms d₁) :
    Checked.Alike (Endpoint.SameButRoom rooms) (Endpoint.check d) (Endpoint.check d₁) := by
  refine (checkFields_sameButRoom h).bind ?_
  intro f g same
  obtain ⟨enabled, url⟩ := same.address
  have reachable : (f.enabled = true → isWebUrl f.url = true) ↔
      (g.enabled = true → isWebUrl g.url = true) := by rw [enabled, url]
  unfold ofFields
  by_cases h : g.enabled = true → isWebUrl g.url = true
  · rw [dif_pos h, dif_pos (reachable.mpr h)]
    exact .ok _ _ same
  · rw [dif_neg h, dif_neg (mt reachable.mp h)]
    exact .error _

namespace Endpoint.SameButRoom

variable {e f : Endpoint}

theorem refl (e : Endpoint) : e.SameButRoom rooms e := ⟨rfl, fun _ => rfl⟩

theorem templates (h : e.SameButRoom rooms f) :
    (Relay.defaultRule e).SameButRoom rooms (Relay.defaultRule f) ∧
    (Relay.testRule e).toRule.SameButRoom rooms (Relay.testRule f).toRule := by
  obtain ⟨⟨_, _, _, _, _, _, _⟩, _⟩ := e
  obtain ⟨⟨_, _, _, _, _, _, _⟩, _⟩ := f
  obtain ⟨same, room⟩ := h
  cases same
  exact ⟨⟨rfl, room⟩, ⟨rfl, room⟩⟩

theorem updated (h : e.SameButRoom rooms f) (seen : rooms) : Live.updated e = Live.updated f := by
  have room : e.room = f.room := h.2 seen
  simp only [Live.updated, h.address.1, room]

/-- What is sent, and how it ends, hangs on no room. -/
theorem send (h : e.SameButRoom rooms f) (l : Link) (a : Alert) : l.send e a = l.send f a := by
  simp only [Link.send, Courier.send, h.address]

end Endpoint.SameButRoom

/-- Items that are the same, or describe endpoints that differ at most in the room. -/
inductive Item.SameButRoom (rooms : Prop) : Item → Item → Prop
  | same (i : Item) : SameButRoom rooms i i
  | endpoint (data data₁ : Raw) (h : data.SameButRoom rooms data₁) :
      SameButRoom rooms (.endpoint data) (.endpoint data₁)

inductive Proposal.SameButRoom (rooms : Prop) : Proposal → Proposal → Prop
  | items (is is₁ : List Item) (h : List.Forall₂ (Item.SameButRoom rooms) is is₁) :
      SameButRoom rooms (.items is) (.items is₁)
  | raw (v : Value) : SameButRoom rooms (.raw v) (.raw v)

theorem Proposal.SameButRoom.refl (p : Proposal) : p.SameButRoom rooms p := by
  cases p with
  | items is => exact .items is is (List.forall₂_same.mpr (fun i _ => .same i))
  | raw v => exact .raw v

theorem Item.make_sameButRoom (next : Nat) (i j : Item) (h : i.SameButRoom rooms j) :
    Agree (fun x y => x.1.Alike (Endpoint.SameButRoom rooms) y.1 ∧ x.2 = y.2) (i.make next)
      (j.make next) := by
  cases h with
  | same => exact .refl (fun x => ⟨.same x.1, rfl⟩) _
  | endpoint data data₁ h =>
    apply (Endpoint.check_sameButRoom h).agree.bind
    intro e e₁ same
    exact .ok _ _ ⟨.endpoint next e e₁ same, rfl⟩

theorem Proposal.make_sameButRoom (next : Nat) (p q : Proposal) (h : p.SameButRoom rooms q) :
    Agree (fun x y => x.1.Alike (Endpoint.SameButRoom rooms) y.1 ∧ x.2 = y.2) (p.make next)
      (q.make next) := by
  cases h with
  | raw v => exact .ok _ _ ⟨.raw v, rfl⟩
  | items is is₁ h =>
    apply (Item.makeAll_agree Item.make_sameButRoom next is is₁ h).map
    rintro ⟨cs, n⟩ ⟨cs₁, n₁⟩ ⟨made, rfl⟩
    exact ⟨.members cs cs₁ made, rfl⟩

theorem Live.update_sameButRoom (l k : Live) {b c : Batch}
    (h : b.Alike (Endpoint.SameButRoom rooms) c) :
    Agree (fun x y => x.1.current.endpoint.SameButRoom rooms y.1.current.endpoint ∧
      (rooms → x.2 = y.2)) (l.update b) (k.update c) := by
  apply (Batch.sole_alike Endpoint.SameButRoom.refl b c h).bind
  intro i j same
  exact .ok _ _ ⟨same, same.updated⟩

/-- The parts of a rule that are the same, the room only where `rooms` holds. -/
def Part.Shared (rooms : Prop) : Part → Prop
  | room => rooms
  | message => False
  | labelNames | labelValues | annotationNames | annotationValues => True

/-- Values that a part may have side by side. -/
structure Part.Paired (rooms : Prop) (p : Part) (v w : Value) : Prop where
  type : v.typeName = w.typeName
  shared : p.Shared rooms → v = w

theorem Problem.ofMisused_map {α β : Type} (f : α → β) (x : Except Misuse α) :
    ofMisused (x.map f) = (ofMisused x).map f := by
  cases x <;> rfl

theorem Part.Paired.refl {p : Part} (v : Value) : p.Paired rooms v v := ⟨rfl, fun _ => rfl⟩

structure Slot.Paired (rooms : Prop) (p : Part) (s s₁ : Slot) : Prop where
  version : s.version = s₁.version
  now : p.Paired rooms s.now s₁.now

theorem Value.eq_list_of_typeName (v : Value) (h : v.typeName = "list") : ∃ xs, v = .list xs := by
  cases v with
  | list xs => exact ⟨xs, rfl⟩
  | scalar s => cases s <;> simp [typeName] at h
  | tuple xs | set xs | map es => simp [typeName] at h

theorem Slot.append_paired {p : Part} {s s₁ : Slot} (h : s.Paired rooms p s₁) (v : Value) :
    Agree (Slot.Paired rooms p) (Problem.ofMisused (s.append v)) (Problem.ofMisused (s₁.append v)) := by
  obtain ⟨past, now⟩ := s
  obtain ⟨past₁, now₁⟩ := s₁
  obtain ⟨version, type, shared⟩ := h
  -- The types are the same, so both values are lists or both are refused by the same name.
  by_cases list : now.typeName = "list"
  · obtain ⟨xs, rfl⟩ := now.eq_list_of_typeName list
    obtain ⟨ys, rfl⟩ := now₁.eq_list_of_typeName (type ▸ list)
    refine .ok _ _ ⟨version, rfl, fun seen => ?_⟩
    have same : xs = ys := Value.list.inj (shared seen)
    rw [same]
  · have refused (w : Value) (other : w.typeName ≠ "list") (past : List Value) :
        append ⟨past, w⟩ v = .error (.noAttribute w.typeName "append") := by
      cases w with
      | list xs => exact absurd rfl other
      | scalar | tuple | set | map => rfl
    rw [refused now list, refused now₁ (type ▸ list), type]
    exact .error _

/-- Rules in the hands of the host that differ at most in room and message. -/
structure Draft.Paired (rooms : Prop) (d d₁ : Draft) : Prop where
  isTest : d.isTest = d₁.isTest
  hidden : d.hidden = d₁.hidden
  slots : ∀ p, (d.slot p).Paired rooms p (d₁.slot p)

namespace Draft

variable {d d₁ : Draft}

theorem value_paired {r r₁ : Rule} (h : r.SameButRoom rooms r₁) (m m₁ : Text) (p : Part) :
    p.Paired rooms (value r m p) (value r₁ m₁ p) := by
  obtain ⟨room, _, _, _, _⟩ := r
  obtain ⟨room₁, _, _, _, _⟩ := r₁
  obtain ⟨same, seen⟩ := h
  cases same
  cases p with
  | room => exact ⟨rfl, fun shared => congrArg Value.text (seen shared)⟩
  | message => exact ⟨rfl, fun shared => shared.elim⟩
  | labelNames | labelValues | annotationNames | annotationValues => exact .refl _

theorem ofRule_paired {r r₁ : Rule} (h : r.SameButRoom rooms r₁) : (ofRule r).Paired rooms (ofRule r₁) :=
  ⟨rfl, rfl, fun p => ⟨rfl, value_paired h "" "" p⟩⟩

theorem ofTestRule_paired {r r₁ : TestRule} (h : r.toRule.SameButRoom rooms r₁.toRule) :
    (ofTestRule r).Paired rooms (ofTestRule r₁) :=
  ⟨rfl, rfl, fun p => ⟨rfl, value_paired h r.message r₁.message p⟩⟩

theorem Paired.refl (d : Draft) : d.Paired rooms d := ⟨rfl, rfl, fun _ => ⟨rfl, .refl _⟩⟩

theorem Paired.typeName (h : d.Paired rooms d₁) : d.typeName = d₁.typeName := by
  simp only [Draft.typeName, h.isTest]

theorem Paired.part? (h : d.Paired rooms d₁) (name : Text) : d.part? name = d₁.part? name := by
  simp only [Draft.part?, parts, h.isTest]

theorem Paired.versions (h : d.Paired rooms d₁) : d.versions = d₁.versions :=
  funext (fun p => (h.slots p).version)

theorem Paired.put (h : d.Paired rooms d₁) {p : Part} {s s₁ : Slot} (paired : s.Paired rooms p s₁) :
    (d.put p s).Paired rooms (d₁.put p s₁) := by
  refine ⟨h.isTest, h.hidden, fun q => ?_⟩
  simp only [Draft.put]
  by_cases here : q = p
  · subst here
    simpa only [if_true] using paired
  · simpa only [if_neg here] using h.slots q

theorem name_of_part? (name : Text) (p : Part) (found : d.part? name = some p) :
    p.name = name := by
  have same := List.find?_some found
  exact eq_of_beq same

theorem set_paired (h : d.Paired rooms d₁) (name : Text) (v w : Value)
    (part : ∀ p : Part, p.name = name → p.Paired rooms v w) (other : isHiddenName name = true → v = w) :
    Agree (Paired rooms) (Problem.ofMisused (d.set name v)) (Problem.ofMisused (d₁.set name w)) := by
  unfold Draft.set
  rw [h.part? name, h.typeName, h.hidden]
  cases found : d₁.part? name with
  | some p =>
    have slot := h.slots p
    have version : ((d.slot p).set v).version = ((d₁.slot p).set w).version := by
      simpa [Slot.set, Slot.version] using slot.version
    exact .ok _ _ (h.put ⟨version, part p (name_of_part? name p found)⟩)
  | none =>
    cases innate : Innate.ofName? name with
    | some i =>
      rw [other (isHiddenName_of_innate name i innate)]
      exact .error _
    | none =>
      by_cases hid : isHiddenName name = true
      · simp only [if_pos hid, other hid]
        exact .ok _ _ ⟨h.isTest, rfl, h.slots⟩
      · simp only [if_neg hid]
        exact .error _

theorem append_paired (h : d.Paired rooms d₁) (name : Text) (v : Value) :
    Agree (Paired rooms) (Problem.ofMisused (d.append name v)) (Problem.ofMisused (d₁.append name v)) := by
  unfold Draft.append
  rw [h.part? name, h.typeName, h.hidden]
  cases d₁.part? name with
  | some p =>
    have slot := Slot.append_paired (h.slots p) v
    simp only [Problem.ofMisused_map]
    exact slot.map (fun _ _ paired => h.put paired)
  | none =>
    cases Innate.ofName? name with
    | some i => exact .error _
    | none =>
      cases Fields.get? name d₁.hidden with
      | none => exact .error _
      | some s =>
        simp only [Problem.ofMisused_map]
        apply Agree.map (.refl (fun _ => rfl) (Problem.ofMisused (s.append v)))
        rintro s _ rfl
        exact ⟨h.isTest, rfl, h.slots⟩

end Draft

namespace Relay

/-- Orders that differ at most in the room. -/
def Order.SameButRoom (rooms : Prop) (o o₁ : Order) : Prop :=
  { o with room := o₁.room } = o₁ ∧ (rooms → o.room = o₁.room)

namespace Order.SameButRoom

variable {o o₁ : Order}

theorem refl (o : Order) : o.SameButRoom rooms o := ⟨rfl, fun _ => rfl⟩

theorem parts (h : o.SameButRoom rooms o₁) : o.build = o₁.build ∧ o.urgency = o₁.urgency := by
  obtain ⟨_, _, _, _, _, _⟩ := o
  obtain ⟨_, _, _, _, _, _⟩ := o₁
  obtain ⟨same, _⟩ := h
  cases same
  exact ⟨rfl, rfl⟩

theorem delivered (h : o.SameButRoom rooms o₁) (a : Alert) :
    Agree (fun entry entry₁ => rooms → entry = entry₁) (Relay.delivered o a) (Relay.delivered o₁ a) := by
  simp only [Relay.delivered, h.parts.2]
  cases o₁.urgency with
  | level l => exact .ok _ _ (fun seen => by rw [h.2 seen])
  | other v => exact .error _

end Order.SameButRoom

theorem orderOf_sameButRoom {d d₁ : Draft} (h : d.Paired rooms d₁) (u : Urgency) :
    (orderOf d u).SameButRoom rooms (orderOf d₁ u) := by
  have labelNames := (h.slots .labelNames).now.shared trivial
  have labelValues := (h.slots .labelValues).now.shared trivial
  have annotationNames := (h.slots .annotationNames).now.shared trivial
  have annotationValues := (h.slots .annotationValues).now.shared trivial
  refine ⟨?_, (h.slots .room).now.shared⟩
  simp only [orderOf, Draft.now, labelNames, labelValues, annotationNames, annotationValues]

end Relay
end AlertRelay
