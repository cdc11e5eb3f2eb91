import AlertRelay.Rule
import AlertRelay.Proofs.Lookups
import Mathlib.Data.Fintype.Basic

/-! The two names of each list of a rule. Data may be respelt, some lists going by their second names in
place of their own, and the check tells what it finds under the new names. Once a list is there under
its second name, its own name is not looked at. -/
namespace AlertRelay

inductive RuleList
  | labelNames
  | labelValues
  | annotationNames
  | annotationValues
deriving DecidableEq

namespace RuleList

instance : Fintype RuleList where
  elems := {.labelNames, .labelValues, .annotationNames, .annotationValues}
  complete l := by cases l <;> decide

def name : RuleList → Text
  | labelNames => "label_names"
  | labelValues => "label_values"
  | annotationNames => "annotation_names"
  | annotationValues => "annotation_values"

/-- The other name, which goes first. -/
def second : RuleList → Text
  | labelNames => "alertManagerTagName"
  | labelValues => "alertManagerTagValue"
  | annotationNames => "alertManagerAnnotationName"
  | annotationValues => "alertManagerAnnotationValue"

theorem name_injective : ∀ {l m : RuleList}, l.name = m.name → l = m := by decide

theorem second_injective : ∀ {l m : RuleList}, l.second = m.second → l = m := by decide

theorem second_ne_name : ∀ l m : RuleList, l.second ≠ m.name := by decide

/-- What stands for a name when these lists go by their second names. -/
def respell (ls : List RuleList) (name : Text) : Text :=
  match ls.find? (fun l => l.name == name) with
  | some l => l.second
  | none => name

variable {ls : List RuleList} {l : RuleList} {name : Text}

theorem respell_cases (ls : List RuleList) (name : Text) :
    (∃ l ∈ ls, name = l.name ∧ respell ls name = l.second) ∨
    (∀ l ∈ ls, name ≠ l.name) ∧ respell ls name = name := by
  unfold respell
  cases found : ls.find? (fun l => l.name == name) with
  | some l =>
    have same := List.find?_some found
    exact Or.inl ⟨l, List.mem_of_find?_eq_some found, (eq_of_beq same).symm, rfl⟩
  | none =>
    refine Or.inr ⟨?_, rfl⟩
    intro l member same
    exact List.find?_eq_none.mp found l member (beq_iff_eq.mpr same.symm)

theorem respell_name (member : l ∈ ls) : respell ls l.name = l.second := by
  rcases respell_cases ls l.name with ⟨m, _, same, spelt⟩ | ⟨other, _⟩
  · rw [spelt, name_injective same]
  · exact absurd rfl (other l member)

theorem respell_other (other : ∀ l ∈ ls, name ≠ l.name) : respell ls name = name := by
  rcases respell_cases ls name with ⟨l, member, same, _⟩ | ⟨_, spelt⟩
  · exact absurd same (other l member)
  · exact spelt

theorem respell_eq_second (spelt : respell ls name = l.second) :
    (l ∈ ls ∧ name = l.name) ∨ name = l.second := by
  rcases respell_cases ls name with ⟨m, member, same, respelt⟩ | ⟨_, kept⟩
  · obtain rfl := second_injective (respelt.symm.trans spelt)
    exact Or.inl ⟨member, same⟩
  · exact Or.inr (kept.symm.trans spelt)

theorem respell_eq_other {other : Text} (plain : ∀ l : RuleList, l.second ≠ other)
    (spelt : respell ls name = other) : name = other := by
  rcases respell_cases ls name with ⟨m, _, _, respelt⟩ | ⟨_, kept⟩
  · exact absurd (respelt.symm.trans spelt) (plain m)
  · exact kept.symm.trans spelt

end RuleList

/-- An issue with another name in front. -/
def Issue.renamed (σ : Text → Text) (i : Issue) : Issue :=
  match i.place with
  | .key name :: rest => ⟨.key (σ name) :: rest, i.flaw⟩
  | _ => i

namespace Checked

variable {α β : Type} (σ : Text → Text)

def renamed (x : Checked α) : Checked α := x.mapError (fun is => is.map (Issue.renamed σ))

theorem renamed_map (f : α → β) (x : Checked α) : renamed σ (x.map f) = (x.renamed σ).map f := by
  cases x <;> rfl

theorem renamed_both (x : Checked α) (y : Checked β) :
    (x.both y).renamed σ = (x.renamed σ).both (y.renamed σ) := by
  cases x with
  | ok a => cases y <;> rfl
  | error is =>
    cases y with
    | ok b => rfl
    | error js => exact congrArg Except.error List.map_append

theorem renamed_within (name : Text) (x : Checked α) :
    (x.within (.key name)).renamed σ = x.within (.key (σ name)) := by
  cases x with
  | ok a => rfl
  | error is => exact congrArg Except.error (List.map_map ..)

end Checked

/-- A key with another name, if it is a name at all. -/
def Scalar.renamed (σ : Text → Text) : Scalar → Scalar
  | .text name => .text (σ name)
  | k => k

namespace Raw

/-- Data with the same values under other names. -/
def renamed (σ : Text → Text) (d : Raw) : Raw := d.map (fun p => (p.1.renamed σ, p.2))

variable {σ : Text → Text}

theorem get?_renamed_text (old : Text) (v : Value) (d : Raw) (new : Text) :
    (renamed σ ((.text old, v) :: d)).get? new = if σ old = new then some v else (d.renamed σ).get? new := by
  have spelt : renamed σ ((.text old, v) :: d) = (.text (σ old), v) :: d.renamed σ := rfl
  simp only [spelt, get?_cons, Scalar.text.injEq]

theorem get?_renamed_other {k : Scalar} (other : ∀ name, k ≠ .text name) (v : Value) (d : Raw) (new : Text) :
    (renamed σ ((k, v) :: d)).get? new = (d.renamed σ).get? new := by
  have kept : renamed σ ((k, v) :: d) = (k, v) :: d.renamed σ := by
    cases k with
    | text name => exact absurd rfl (other name)
    | null | bool | int | float | bytes | date | moment => rfl
  rw [kept, get?_cons, if_neg (other new)]

theorem get?_renamed (d : Raw) (name new : Text)
    (alone : ∀ other, d.get? other ≠ none → (σ other = new ↔ other = name)) :
    (d.renamed σ).get? new = d.get? name := by
  induction d with
  | nil => rfl
  | cons e r ih =>
    obtain ⟨k, v⟩ := e
    -- What the rest has, the whole has too, so there as well no two names have become one.
    have rest : (Raw.renamed σ r).get? new = Raw.get? r name := by
      apply ih
      intro other found
      apply alone other
      rw [get?_cons]
      split
      · exact Option.some_ne_none v
      · exact found
    by_cases named : ∃ old, k = .text old
    · obtain ⟨old, rfl⟩ := named
      have turned : σ old = new ↔ old = name :=
        alone old (by rw [get?_cons, if_pos rfl]; exact Option.some_ne_none v)
      simp only [get?_renamed_text, get?_cons, turned, rest, Scalar.text.injEq]
    · have other : ∀ old, k ≠ .text old := fun old same => named ⟨old, same⟩
      rw [get?_renamed_other other, get?_cons, if_neg (other name), rest]

/-- What data may become: these lists go by their second names, and the own name of a list that had
its second name from the start is given another value or none. -/
inductive Edited (ls : List RuleList) (d : Raw) : Raw → Prop
  | respelt : Edited ls d (d.renamed (RuleList.respell ls))
  | put {e : Raw} (l : RuleList) (v : Value) (there : d.get? l.second ≠ none) (before : Edited ls d e) :
    Edited ls d (Ordered.put (.text l.name) v e)
  | erase {e : Raw} (l : RuleList) (there : d.get? l.second ≠ none) (before : Edited ls d e) :
    Edited ls d (Ordered.erase (.text l.name) e)

/-- Respelt data, but for what stands under the own names of lists that had a second one. -/
structure Respells (ls : List RuleList) (d e : Raw) : Prop where
  unused : ∀ l ∈ ls, d.get? l.second = none
  same : ∀ name, (∀ l : RuleList, name = l.name → d.get? l.second = none) →
    e.get? name = (d.renamed (RuleList.respell ls)).get? name

theorem Edited.respells {ls : List RuleList} {d e : Raw} (edited : Edited ls d e)
    (unused : ∀ l ∈ ls, d.get? l.second = none) : Respells ls d e := by
  refine ⟨unused, ?_⟩
  intro name free
  have apart (l : RuleList) (there : d.get? l.second ≠ none) : Scalar.text l.name ≠ .text name := by
    intro here
    exact there (free l (Scalar.text.inj here).symm)
  induction edited with
  | respelt => rfl
  | put l v there _ ih => rw [get?_put_other (apart l there), ih]
  | erase l there _ ih => rw [get?_erase_other (apart l there), ih]

theorem field_renamed {α : Type} {check : Value → Checked α} {absent : α} {name : Text} {d : Raw}
    (kept : σ name = name) : (d.field name check absent).renamed σ = d.field name check absent := by
  cases found : d.get? name with
  | none =>
    rw [field_of_none found]
    rfl
  | some v => rw [field_of_some found, Checked.renamed_within, kept]

/-- A list as it is found in data. -/
def list (d : Raw) (l : RuleList) : Checked (List Text) :=
  d.aliased l.second l.name (Check.texts .listType) []

namespace Respells

open RuleList

variable {α : Type} {ls : List RuleList} {d e : Raw}

theorem get?_plain (h : Respells ls d e) (name : Text) (own : ∀ l : RuleList, l.name ≠ name)
    (second : ∀ l : RuleList, l.second ≠ name) : e.get? name = d.get? name := by
  rw [h.same name (fun l same => absurd same.symm (own l))]
  apply get?_renamed
  intro other _
  constructor
  · exact respell_eq_other second
  · rintro rfl
    exact respell_other (fun l _ same => own l same.symm)

theorem get?_second_kept (h : Respells ls d e) {l : RuleList} (kept : l ∉ ls) :
    e.get? l.second = d.get? l.second := by
  rw [h.same l.second (fun m same => absurd same (second_ne_name l m))]
  apply get?_renamed
  intro other _
  constructor
  · intro spelt
    rcases respell_eq_second spelt with ⟨member, _⟩ | same
    · exact absurd member kept
    · exact same
  · rintro rfl
    exact respell_other (fun m _ => second_ne_name l m)

theorem get?_name_kept (h : Respells ls d e) {l : RuleList} (kept : l ∉ ls)
    (missing : d.get? l.second = none) : e.get? l.name = d.get? l.name := by
  rw [h.same l.name (fun m same => name_injective same ▸ missing)]
  apply get?_renamed
  intro other _
  constructor
  · exact respell_eq_other (fun m => second_ne_name m l)
  · rintro rfl
    exact respell_other (fun m member same => kept (name_injective same ▸ member))

theorem get?_second_respelt (h : Respells ls d e) {l : RuleList} (member : l ∈ ls) :
    e.get? l.second = d.get? l.name := by
  rw [h.same l.second (fun m same => absurd same (second_ne_name l m))]
  apply get?_renamed
  intro other found
  constructor
  · intro spelt
    rcases respell_eq_second spelt with ⟨_, same⟩ | rfl
    · exact same
    · exact absurd (h.unused l member) found
  · rintro rfl
    exact respell_name member

theorem get?_name_respelt (h : Respells ls d e) {l : RuleList} (member : l ∈ ls) :
    e.get? l.name = none := by
  rw [h.same l.name (fun m same => name_injective same ▸ h.unused l member), ← h.unused l member]
  apply get?_renamed
  intro other found
  constructor
  · intro spelt
    have same := respell_eq_other (fun m => second_ne_name m l) spelt
    rw [same, respell_name member] at spelt
    exact absurd spelt (second_ne_name l l)
  · rintro rfl
    exact absurd (h.unused l member) found

theorem field_plain (h : Respells ls d e) (name : Text) (own : ∀ l : RuleList, l.name ≠ name)
    (second : ∀ l : RuleList, l.second ≠ name) (check : Value → Checked α) (absent : α) :
    e.field name check absent = (d.field name check absent).renamed (respell ls) := by
  rw [field_renamed (respell_other fun l _ same => own l same.symm)]
  exact field_congr (h.get?_plain name own second)

theorem list_respelt (h : Respells ls d e) (l : RuleList) :
    e.list l = (d.list l).renamed (respell ls) := by
  unfold list
  -- A list that has its second name keeps it; of the others some get it.
  cases there : d.get? l.second with
  | some v =>
    have kept : l ∉ ls := by
      intro member
      rw [h.unused l member] at there
      cases there
    rw [aliased_of_some there, aliased_of_some ((h.get?_second_kept kept).trans there),
      Checked.renamed_within, respell_other fun m _ => second_ne_name l m]
  | none =>
    rw [aliased_of_none there]
    by_cases member : l ∈ ls
    · have moved := h.get?_second_respelt member
      cases found : d.get? l.name with
      | some v =>
        rw [field_of_some found, aliased_of_some (moved.trans found), Checked.renamed_within,
          respell_name member]
      | none =>
        rw [field_of_none found, aliased_of_none (moved.trans found),
          field_of_none (h.get?_name_respelt member)]
        rfl
    · have kept : respell ls l.name = l.name :=
        respell_other fun m listed same => member (name_injective same ▸ listed)
      rw [aliased_of_none ((h.get?_second_kept member).trans there), field_renamed kept]
      exact field_congr (h.get?_name_kept member there)

end Respells
end Raw

theorem Rule.check_lists (d : Raw) :
    check d = ((d.field "room" Check.text "").both
      ((d.list .labelNames).both ((d.list .labelValues).both
        ((d.list .annotationNames).both (d.list .annotationValues))))).map
      (fun (r, ln, lv, an, av) => ⟨r, ln, lv, an, av⟩) := rfl

theorem Rule.check_respelt {ls : List RuleList} {d e : Raw} (h : Raw.Respells ls d e) :
    check e = (check d).renamed (RuleList.respell ls) := by
  have room := h.field_plain "room" (by decide) (by decide) Check.text ""
  simp only [check_lists, Checked.renamed_map, Checked.renamed_both, h.list_respelt, room]

/-- Whichever of its two names each list goes by, and whatever becomes of the own name of a list that
has its second name: the same rule or self-test is made, or the same issues are found, those
of a respelt list under its second name. -/
theorem names_interchangeable (ls : List RuleList) (d e : Raw)
    (unused : ∀ l ∈ ls, d.get? l.second = none) (edited : Raw.Edited ls d e) :
    Rule.check e = (Rule.check d).renamed (RuleList.respell ls) ∧
    TestRule.check e = (TestRule.check d).renamed (RuleList.respell ls) := by
  have h := edited.respells unused
  have message := h.field_plain "message" (by decide) (by decide) Check.text ""
  constructor
  · exact Rule.check_respelt h
  · rw [TestRule.check, TestRule.check, Checked.renamed_map, Checked.renamed_both, Rule.check_respelt h,
      message]

/-- A faulty list is respelt, while another fault appears beside a second name, where it does not count. -/
theorem fault_found_under_second_name :
    let d : Raw := [(.text "label_names", .list [.text "severity", .int 3]),
      (.text "alertManagerTagValue", .list [.text "page"])]
    let e : Raw := [(.text "alertManagerTagName", .list [.text "severity", .int 3]),
      (.text "alertManagerTagValue", .list [.text "page"]), (.text "label_values", .null)]
    (∀ l ∈ [RuleList.labelNames], d.get? l.second = none) ∧ Raw.Edited [.labelNames] d e ∧
    Rule.check d = .error [⟨[.key "label_names", .index 1], .stringType⟩] ∧
    Rule.check e = .error [⟨[.key "alertManagerTagName", .index 1], .stringType⟩] := by
  intro d e
  have unused : ∀ l ∈ [RuleList.labelNames], d.get? l.second = none := by
    intro l member
    cases List.mem_singleton.mp member
    rfl
  have there : d.get? RuleList.labelValues.second ≠ none := Option.some_ne_none _
  have edited : Raw.Edited [.labelNames] d e := .put .labelValues .null there .respelt
  have found : Rule.check d = .error [⟨[.key "label_names", .index 1], .stringType⟩] := rfl
  have respelt := (names_interchangeable [.labelNames] d e unused edited).1
  rw [found] at respelt
  exact ⟨unused, edited, found, respelt⟩

end AlertRelay
