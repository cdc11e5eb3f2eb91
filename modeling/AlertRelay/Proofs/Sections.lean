import AlertRelay.Settings
import AlertRelay.Proofs.Destinations

/-! Settings are checked section by section. The issues of a check are those of its parts in their order,
each with its place in front, and only a section as a whole has an issue about
its address. -/
namespace AlertRelay

/-- An issue of a section as the whole tells it. -/
def Issue.under (name : Text) (i : Issue) : Issue := ⟨.key name :: i.place, i.flaw⟩

namespace Checked

variable {α β : Type}

def issues : Checked α → List Issue
  | .ok _ => []
  | .error is => is

theorem issues_within (name : Text) (x : Checked α) :
    (x.within (.key name)).issues = x.issues.map (Issue.under name) := by
  cases x <;> rfl

theorem issues_both (x : Checked α) (y : Checked β) : (x.both y).issues = x.issues ++ y.issues := by
  cases x with
  | ok a => cases y <;> rfl
  | error is =>
    cases y with
    | ok b => exact (List.append_nil is).symm
    | error js => rfl

theorem issues_map (f : α → β) (x : Checked α) : issues (x.map f) = x.issues := by
  cases x <;> rfl

theorem within_eq_ok (p : Place) (x : Checked α) (a : α) : x.within p = .ok a ↔ x = .ok a := by
  cases x with
  | ok b => exact Iff.rfl
  | error is => constructor <;> intro h <;> cases h

theorem both_eq_ok (x : Checked α) (y : Checked β) (p : α × β) :
    x.both y = .ok p ↔ x = .ok p.1 ∧ y = .ok p.2 := by
  constructor
  · exact both_ok
  · rintro ⟨rfl, rfl⟩
    rfl

/-- No issue has this flaw. -/
def Spares (flaw : Flaw) (x : Checked α) : Prop := ∀ i ∈ x.issues, i.flaw ≠ flaw

variable {flaw : Flaw}

theorem spares_ok (a : α) : Spares flaw (.ok a) := fun _ none => by cases none

theorem spares_fail {f : Flaw} (other : f ≠ flaw) : Spares flaw (fail f : Checked α) := by
  intro i member
  rw [List.mem_singleton.mp member]
  exact other

theorem Spares.both {x : Checked α} {y : Checked β} (h : x.Spares flaw) (k : y.Spares flaw) :
    (x.both y).Spares flaw := by
  intro i member
  rw [issues_both] at member
  rcases List.mem_append.mp member with first | second
  · exact h i first
  · exact k i second

theorem Spares.map {f : α → β} {x : Checked α} (h : x.Spares flaw) : Spares flaw (x.map f) := by
  unfold Spares
  rw [issues_map]
  exact h

theorem Spares.within {x : Checked α} (h : x.Spares flaw) (p : Place) : (x.within p).Spares flaw := by
  cases x with
  | ok a => exact spares_ok a
  | error is =>
    intro i member
    obtain ⟨j, inner, rfl⟩ := List.mem_map.mp member
    exact h j inner

theorem spares_each {check : α → Checked β} (h : ∀ a, (check a).Spares flaw) (n : Nat) (xs : List α) :
    (each check n xs).Spares flaw := by
  induction xs generalizing n with
  | nil => exact spares_ok []
  | cons a r ih => exact (((h a).within (.index n)).both (ih (n + 1))).map

end Checked

theorem Raw.spares_field {α : Type} {check : Value → Checked α} {flaw : Flaw}
    (h : ∀ v, (check v).Spares flaw) (d : Raw) (name : Text) (absent : α) :
    (d.field name check absent).Spares flaw := by
  unfold field
  cases d.get? name with
  | none => exact Checked.spares_ok absent
  | some v => exact (h v).within (.key name)

namespace Check

open Checked

theorem text_spares (v : Value) : (text v).Spares .webUrl := by
  unfold text
  split
  · exact spares_ok _
  · split
    · exact spares_ok _
    · exact spares_fail (by decide)
  · exact spares_fail (by decide)

theorem secret_spares (v : Value) : (secret v).Spares .webUrl := by
  unfold secret
  cases text v with
  | ok t => exact spares_ok t
  | error is => exact spares_fail (by decide)

theorem ofWord_spares (t : Text) : (ofWord t).Spares .webUrl := by
  unfold ofWord
  split
  · exact spares_ok _
  · exact spares_fail (by decide)

theorem ofInteger_spares (n : Int) : (ofInteger n).Spares .webUrl := by
  unfold ofInteger
  split
  · exact spares_ok _
  · split
    · exact spares_ok _
    · split <;> exact spares_fail (by decide)

theorem ofFloat_spares (x : Binary64) : (ofFloat x).Spares .webUrl := by
  unfold ofFloat
  split
  · split
    · exact spares_fail (by decide)
    · exact ofInteger_spares _
  · exact spares_fail (by decide)

theorem bool_spares (v : Value) : (bool v).Spares .webUrl := by
  unfold bool
  split
  · exact spares_ok _
  · exact ofInteger_spares _
  · exact ofFloat_spares _
  · split
    · exact ofWord_spares _
    · exact spares_fail (by decide)
  · split
    · exact ofWord_spares _
    · exact spares_fail (by decide)
  · exact spares_fail (by decide)

theorem texts_spares (v : Value) : (texts .tupleType v).Spares .webUrl := by
  unfold texts
  split
  · exact spares_each text_spares 0 _
  · exact spares_fail (by decide)

end Check

namespace Endpoint

theorem checkFields_spares (d : Raw) : (checkFields d).Spares .webUrl := by
  have names (name : Text) := d.spares_field Check.texts_spares name ([] : List Text)
  exact ((d.spares_field Check.bool_spares "enabled" false).both
    ((d.spares_field Check.secret_spares "url" "").both
      ((d.spares_field Check.text_spares "room" "").both
        ((names "test_label_names").both ((names "test_label_values").both
          ((names "test_annotation_names").both (names "test_annotation_values"))))))).map

/-- The address is told of alone, when all fields are valid and an enabled endpoint has no web address. -/
theorem refused_for_address (d : Raw) (f : EndpointFields) (given : Given d f) (on : f.enabled = true)
    (unreachable : ¬ IsWebAddress f.url) : check d = .error [⟨[], .webUrl⟩] :=
  (check_fields d f ((checkFields_eq_ok d f).mpr given)).2 (fun sound => unreachable (sound on))

theorem given_of_refused (d : Raw) (i : Issue) (told : i ∈ (check d).issues) (web : i.flaw = .webUrl) :
    ∃ f, Given d f ∧ f.enabled = true ∧ ¬ IsWebAddress f.url := by
  cases read : checkFields d with
  | error is =>
    have same : (check d).issues = (checkFields d).issues := by
      simp only [check, read]
      rfl
    exact absurd web (checkFields_spares d i (same ▸ told))
  | ok f =>
    refine ⟨f, (checkFields_eq_ok d f).mp read, ?_⟩
    rw [← Classical.not_imp]
    intro sound
    obtain ⟨e, made, _⟩ := (check_fields d f read).1 sound
    rw [made] at told
    cases told

end Endpoint

namespace Settings

/-- Data that give both sections. -/
def ofSections (a l : Raw) : Raw := [(.text "alertmanager", .map a), (.text "logging", .map l)]

theorem check_ofSections (a l : Raw) :
    check (ofSections a l) =
      (((Endpoint.check a).within (.key "alertmanager")).both
        ((LogSettings.check l).within (.key "logging"))).map (fun p => ⟨p.1, p.2⟩) := rfl

theorem issues_ofSections (a l : Raw) :
    (check (ofSections a l)).issues =
      (Endpoint.check a).issues.map (.under "alertmanager") ++
        (LogSettings.check l).issues.map (.under "logging") := by
  rw [check_ofSections, Checked.issues_map, Checked.issues_both, Checked.issues_within,
    Checked.issues_within]

theorem check_ofSections_eq_ok (a l : Raw) (s : Settings) :
    check (ofSections a l) = .ok s ↔
      Endpoint.check a = .ok s.endpoint ∧ LogSettings.check l = .ok s.log := by
  rw [check_ofSections]
  constructor
  · intro made
    obtain ⟨p, both, rfl⟩ := Checked.map_ok made
    rwa [Checked.both_eq_ok, Checked.within_eq_ok, Checked.within_eq_ok] at both
  · rintro ⟨endpoint, log⟩
    rw [endpoint, log]
    rfl

/-- Settings are made of two sections when each can be made alone, and then hold the two. Otherwise the
issues are those of the endpoint and then those of the log, with the section in front of
each place. An issue about the address is the only one of its section, and there is one
when every field is valid and the endpoint is enabled without a web address. -/
theorem sections_checked_alone (a l : Raw) :
    let whole := check (ofSections a l)
    (∀ s, whole = .ok s ↔ Endpoint.check a = .ok s.endpoint ∧ LogSettings.check l = .ok s.log) ∧
    (∀ is, whole = .error is →
      is = (Endpoint.check a).issues.map (.under "alertmanager") ++
        (LogSettings.check l).issues.map (.under "logging")) ∧
    let refused := ∃ i ∈ (Endpoint.check a).issues, i.flaw = .webUrl
    (refused ↔ ∃ f, Endpoint.Given a f ∧ f.enabled = true ∧ ¬ IsWebAddress f.url) ∧
    (refused → Endpoint.check a = .error [⟨[], .webUrl⟩]) := by
  intro whole
  refine ⟨check_ofSections_eq_ok a l, ?_, ?_, ?_⟩
  · intro is failed
    have found : whole.issues = is := by rw [failed]; rfl
    rw [← found]
    exact issues_ofSections a l
  · constructor
    · rintro ⟨i, told, web⟩
      exact Endpoint.given_of_refused a i told web
    · rintro ⟨f, given, on, unreachable⟩
      refine ⟨⟨[], .webUrl⟩, ?_, rfl⟩
      rw [Endpoint.refused_for_address a f given on unreachable]
      exact List.mem_singleton_self _
  · rintro ⟨i, told, web⟩
    obtain ⟨f, given, on, unreachable⟩ := Endpoint.given_of_refused a i told web
    exact Endpoint.refused_for_address a f given on unreachable

/-- A fault in each section, the first of them about the address. -/
theorem faults_told_in_order :
    let a : Raw := [(.text "url", .text "am.example"), (.text "enabled", .text "YES")]
    let l : Raw := [(.text "level", .int 3)]
    let is : List Issue :=
      [⟨[.key "alertmanager"], .webUrl⟩, ⟨[.key "logging", .key "level"], .stringType⟩]
    check (ofSections a l) = .error is ∧
      is = (Endpoint.check a).issues.map (.under "alertmanager") ++
        (LogSettings.check l).issues.map (.under "logging") ∧
      Endpoint.check a = .error [⟨[], .webUrl⟩] := by
  intro a l is
  have failed : check (ofSections a l) = .error is := rfl
  obtain ⟨_, told, _, alone⟩ := sections_checked_alone a l
  exact ⟨failed, told is failed, alone ⟨⟨[], .webUrl⟩, List.mem_singleton_self _, rfl⟩⟩

end Settings
end AlertRelay
