import AlertRelay.Files.Path
import Mathlib.Data.List.TakeWhile

/-! The plain forms of paths, without empty steps and single dots. The text of a plain form is read as that form
again, and it is a part of any text that has this form. -/
namespace AlertRelay

namespace Path

/-- What can be a step: it is not empty and holds no slash. -/
def IsStep (n : Text) : Prop := n.codes ≠ [] ∧ slash ∉ n.codes

/-- A root of at most two slashes, and steps that are no single dots. -/
structure IsPlain (p : Path) : Prop where
  root : ∃ k ≤ 2, p.root.codes = List.replicate k slash
  steps : ∀ n ∈ p.names, IsStep n
  undotted : ∀ n ∈ p.names, n ≠ dot

theorem exists_first_piece (cs : List Nat) : ∃ p ps, pieces cs = p :: ps := by
  cases cs with
  | nil => exact ⟨[], [], rfl⟩
  | cons c r =>
    rw [pieces]
    split
    · split <;> exact ⟨_, _, rfl⟩
    · exact ⟨_, _, rfl⟩

theorem pieces_eq_splitOn (cs : List Nat) : pieces cs = cs.splitOn slash := by
  induction cs with
  | nil => rfl
  | cons c r ih =>
    obtain ⟨p, ps, parts⟩ := exists_first_piece r
    rw [List.splitOn_cons_eq_if_modifyHead, ← ih, pieces, parts]
    by_cases here : c = slash <;> simp [here]

theorem not_mem_piece (cs p : List Nat) (member : p ∈ pieces cs) : slash ∉ p := by
  induction cs generalizing p with
  | nil =>
    cases List.mem_singleton.mp member
    exact List.not_mem_nil
  | cons c r ih =>
    obtain ⟨q, qs, parts⟩ := exists_first_piece r
    simp only [pieces, parts] at member ih
    split at member
    · rcases List.mem_cons.mp member with rfl | later
      · exact List.not_mem_nil
      · exact ih p later
    · rename_i other
      rcases List.mem_cons.mp member with rfl | later
      · exact List.not_mem_cons_of_ne_of_not_mem (Ne.symm other) (ih q List.mem_cons_self)
      · exact ih p (List.mem_cons_of_mem q later)

theorem mem_steps (t n : Text) (member : n ∈ Path.steps t) : IsStep n := by
  obtain ⟨p, kept, rfl⟩ := List.mem_map.mp member
  obtain ⟨piece, named⟩ := List.mem_filter.mp kept
  exact ⟨by simpa using named, not_mem_piece _ p piece⟩

theorem steps_slash (r : List Nat) : Path.steps ⟨slash :: r⟩ = Path.steps ⟨r⟩ := by
  simp only [Path.steps, pieces_eq_splitOn, List.splitOn_cons_eq_if_modifyHead, beq_self_eq_true, if_true]
  rfl

theorem steps_slashes (k : Nat) (r : List Nat) : Path.steps ⟨List.replicate k slash ++ r⟩ = Path.steps ⟨r⟩ := by
  induction k with
  | zero => rfl
  | succ k ih =>
    rw [List.replicate_succ, List.cons_append, steps_slash]
    exact ih

theorem codes_join (ns : List Text) : (Text.join "/" ns).codes = [slash].intercalate (ns.map Text.codes) := by
  induction ns with
  | nil => rfl
  | cons n r ih =>
    cases r with
    | nil => exact List.intercalate_singleton.symm
    | cons m s =>
      rw [List.map_cons, List.intercalate_cons_of_ne_nil (by simp), ← ih]
      rfl

theorem steps_join (ns : List Text) (steps : ∀ n ∈ ns, IsStep n) : Path.steps (Text.join "/" ns) = ns := by
  cases ns with
  | nil => rfl
  | cons n r =>
    have whole : ∀ p ∈ (n :: r).map Text.codes, slash ∉ p := by
      rintro p member
      obtain ⟨m, known, rfl⟩ := List.mem_map.mp member
      exact (steps m known).2
    have named : ∀ p ∈ (n :: r).map Text.codes, (!p.isEmpty) = true := by
      rintro p member
      obtain ⟨m, known, rfl⟩ := List.mem_map.mp member
      simpa using (steps m known).1
    rw [Path.steps, pieces_eq_splitOn, codes_join, List.splitOn_intercalate slash whole (List.cons_ne_nil _ _),
      List.filter_eq_self.mpr named, List.map_map]
    exact List.map_id _

theorem head_join (ns : List Text) (steps : ∀ n ∈ ns, IsStep n) :
    (Text.join "/" ns).codes.head? ≠ some slash := by
  cases ns with
  | nil => exact nofun
  | cons n r =>
    obtain ⟨named, whole⟩ := steps n List.mem_cons_self
    obtain ⟨c, cs, codes⟩ := List.exists_cons_of_ne_nil named
    have first : (Text.join "/" (n :: r)).codes.head? = some c := by
      cases r with
      | nil => simp only [Text.join, codes, List.head?_cons]
      | cons m s => simp only [Text.join, Text.codes_append, codes, List.cons_append, List.head?_cons]
    rw [first]
    rintro same
    rw [codes, Option.some.inj same] at whole
    exact whole List.mem_cons_self

theorem last_join (ns : List Text) (filled : ns ≠ []) (steps : ∀ n ∈ ns, IsStep n) :
    ∃ c, (Text.join "/" ns).codes.getLast? = some c ∧ c ≠ slash := by
  induction ns with
  | nil => exact absurd rfl filled
  | cons n r ih =>
    cases r with
    | nil =>
      obtain ⟨named, whole⟩ := steps n List.mem_cons_self
      refine ⟨n.codes.getLast named, List.getLast?_eq_some_getLast named, fun same => whole ?_⟩
      rw [← same]
      exact List.getLast_mem named
    | cons m s =>
      obtain ⟨c, last, other⟩ := ih (List.cons_ne_nil m s) (fun x member => steps x (List.mem_cons_of_mem n member))
      refine ⟨c, ?_, other⟩
      have codes : (Text.join "/" (n :: m :: s)).codes = (n ++ "/").codes ++ (Text.join "/" (m :: s)).codes := rfl
      rw [codes, List.getLast?_append, last]
      rfl

/-! The plain form -/

theorem exists_slashes (t : Text) :
    ∃ k cs, t = ⟨List.replicate k slash ++ cs⟩ ∧ cs.head? ≠ some slash := by
  obtain ⟨codes⟩ := t
  induction codes with
  | nil => exact ⟨0, [], rfl, nofun⟩
  | cons c r ih =>
    by_cases here : c = slash
    · obtain ⟨k, cs, same, other⟩ := ih
      refine ⟨k + 1, cs, ?_, other⟩
      rw [here, Text.mk.inj same]
      rfl
    · exact ⟨0, c :: r, rfl, fun same => here (Option.some.inj same)⟩

theorem takeWhile_slashes (k : Nat) (cs : List Nat) (other : cs.head? ≠ some slash) :
    (List.replicate k slash ++ cs).takeWhile (· = slash) = List.replicate k slash := by
  have none : cs.takeWhile (· = slash) = [] := by
    cases cs with
    | nil => rfl
    | cons c r => exact List.takeWhile_cons_of_neg (by simpa using other)
  rw [List.takeWhile_append_of_pos (by simp), none, List.append_nil]

/-- Two slashes are a root of their own; otherwise one counts. -/
def most (k : Nat) : Nat := if k = 2 then 2 else 1

theorem codes_rootOf (k : Nat) (cs : List Nat) (other : cs.head? ≠ some slash) :
    (rootOf ⟨List.replicate k slash ++ cs⟩).codes = (List.replicate k slash).take (most k) := by
  simp only [rootOf, takeWhile_slashes k cs other, List.length_replicate, most]
  split
  · rename_i two
    rw [two]
    rfl
  · rfl

theorem most_le (k : Nat) : most k ≤ 2 := by
  unfold most
  split <;> decide

theorem exists_root (t : Text) : ∃ k ≤ 2, (rootOf t).codes = List.replicate k slash := by
  obtain ⟨k, cs, rfl, other⟩ := exists_slashes t
  rw [codes_rootOf k cs other, List.take_replicate]
  exact ⟨_, (Nat.min_le_left _ k).trans (most_le k), rfl⟩

theorem isPlain_ofText (t : Text) : (ofText t).IsPlain where
  root := exists_root t
  steps := fun n member => mem_steps t n (List.mem_filter.mp member).1
  undotted := fun n member => by simpa using (List.mem_filter.mp member).2

/-- The path with nothing in it, which is written as a dot. -/
def bare : Path := ⟨.empty, []⟩

theorem text_codes (p : Path) (shown : p ≠ bare) :
    p.text.codes = p.root.codes ++ (Text.join "/" p.names).codes := by
  have hidden : (p.root.isEmpty && p.names.isEmpty) = false := by
    rw [Bool.eq_false_iff]
    intro empty
    obtain ⟨root, names⟩ := (Bool.and_eq_true _ _).mp empty
    apply shown
    obtain ⟨⟨root₁⟩, names₁⟩ := p
    cases List.isEmpty_iff.mp root
    cases List.isEmpty_iff.mp names
    rfl
  simp only [text, hidden, Bool.false_eq_true, if_false]
  rfl

theorem steps_text (p : Path) (plain : p.IsPlain) (shown : p ≠ bare) : Path.steps p.text = p.names := by
  obtain ⟨k, _, root⟩ := plain.root
  have codes : p.text = ⟨List.replicate k slash ++ (Text.join "/" p.names).codes⟩ := by
    rw [← root, ← text_codes p shown]
  rw [codes, steps_slashes, steps_join p.names plain.steps]

/-- A path in its plain form is read back as it is. -/
theorem ofText_text (p : Path) (plain : p.IsPlain) : ofText p.text = p := by
  by_cases shown : p = bare
  · rw [shown]
    rfl
  · obtain ⟨k, few, root⟩ := plain.root
    have codes : p.text = ⟨p.root.codes ++ (Text.join "/" p.names).codes⟩ := by
      rw [← text_codes p shown]
    have all : min (most k) k = k := by
      unfold most
      split <;> omega
    have same : (rootOf p.text).codes = p.root.codes := by
      rw [codes, root, codes_rootOf k _ (head_join p.names plain.steps), List.take_replicate, all]
    have root₁ : rootOf p.text = p.root := congrArg Text.mk same
    have names : p.names.filter (· ≠ dot) = p.names :=
      List.filter_eq_self.mpr (fun n member => by simpa using plain.undotted n member)
    rw [ofText, steps_text p plain shown, names, root₁]

theorem isRooted_iff (t : Text) : isRooted t = true ↔ (rootOf t).codes ≠ [] := by
  obtain ⟨k, cs, rfl, other⟩ := exists_slashes t
  rw [codes_rootOf k cs other]
  cases k with
  | zero => simpa [isRooted] using other
  | succ k =>
    have counted : most (k + 1) ≠ 0 := by
      unfold most
      split <;> decide
    simp [isRooted, List.replicate_succ, counted]

/-- A path and its plain form start from the same place. -/
theorem isRooted_ofText (t : Text) : isRooted (ofText t).text = isRooted t := by
  have same : rootOf (ofText t).text = rootOf t := congrArg Path.root (ofText_text _ (isPlain_ofText t))
  rw [Bool.eq_iff_iff, isRooted_iff, isRooted_iff, same]

theorem names_of_isOpenEnded (p : Path) (plain : p.IsPlain) (shown : p ≠ bare)
    (openEnded : isOpenEnded p.text = true) : p.names = [] := by
  apply Classical.byContradiction
  intro filled
  obtain ⟨c, last, other⟩ := last_join p.names filled plain.steps
  rw [isOpenEnded, text_codes p shown, List.getLast?_append, last] at openEnded
  exact other (by simpa using openEnded)

theorem isEmpty_text (p : Path) (plain : p.IsPlain) : p.text.isEmpty = false := by
  by_cases shown : p = bare
  · rw [shown]
    rfl
  · rw [← Bool.not_eq_true, Text.isEmpty, List.isEmpty_iff, text_codes p shown, List.append_eq_nil_iff]
    rintro ⟨root, names⟩
    have none : p.names = [] := by
      apply Classical.byContradiction
      intro filled
      obtain ⟨c, last, _⟩ := last_join p.names filled plain.steps
      rw [names] at last
      cases last
    exact shown (congrArg₂ Path.mk (congrArg Text.mk root) none)

theorem steps_ne_nil (t : Text) (named : t.isEmpty = false) (unrooted : isRooted t = false) :
    Path.steps t ≠ [] := by
  obtain ⟨codes⟩ := t
  cases codes with
  | nil => cases named
  | cons c r =>
    have other : c ≠ slash := by simpa [isRooted] using unrooted
    obtain ⟨p, ps, parts⟩ := exists_first_piece r
    simp [Path.steps, pieces, parts, other]

theorem intercalate_sublist (sep : List Nat) {ps qs : List (List Nat)} (h : ps.Sublist qs) :
    (sep.intercalate ps).Sublist (sep.intercalate qs) := by
  induction h with
  | slnil => exact List.Sublist.refl _
  | @cons ps qs q h ih =>
    by_cases last : qs = []
    · rw [last, List.sublist_nil] at h
      rw [h]
      exact List.nil_sublist _
    · rw [List.intercalate_cons_of_ne_nil last]
      exact ih.trans (List.sublist_append_right _ _)
  | @cons_cons ps qs q h ih =>
    by_cases alone : ps = []
    · rw [alone, List.intercalate_singleton]
      by_cases last : qs = []
      · simp only [last, List.intercalate_singleton, List.Sublist.refl]
      · rw [List.intercalate_cons_of_ne_nil last, List.append_assoc]
        exact List.sublist_append_left _ _
    · have more : qs ≠ [] := fun last => alone (List.sublist_nil.mp (last ▸ h))
      rw [List.intercalate_cons_of_ne_nil alone, List.intercalate_cons_of_ne_nil more]
      exact (List.Sublist.refl _).append ih

theorem names_sublist (cs : List Nat) : ((ofText ⟨cs⟩).names.map Text.codes).Sublist (pieces cs) := by
  simp only [ofText, Path.steps]
  refine (List.filter_sublist.map Text.codes).trans ?_
  rw [List.map_map, show Text.codes ∘ Text.mk = id from rfl, List.map_id]
  exact List.filter_sublist

/-- A plain form takes nothing that is not in the text, so it is no longer. -/
theorem text_sublist (t : Text) (shown : ofText t ≠ bare) : (ofText t).text.codes.Sublist t.codes := by
  obtain ⟨k, cs, rfl, other⟩ := exists_slashes t
  have root : (ofText ⟨List.replicate k slash ++ cs⟩).root.codes.Sublist (List.replicate k slash) := by
    rw [ofText, codes_rootOf k cs other]
    exact List.take_sublist _ _
  have names : (Text.join "/" (ofText ⟨List.replicate k slash ++ cs⟩).names).codes.Sublist cs := by
    have same : (ofText ⟨List.replicate k slash ++ cs⟩).names = (ofText ⟨cs⟩).names := by
      simp only [ofText, steps_slashes]
    have part := intercalate_sublist [slash] (names_sublist cs)
    rw [pieces_eq_splitOn, List.intercalate_splitOn] at part
    rw [codes_join, same]
    exact part
  rw [text_codes _ shown]
  exact root.append names

end Path

end AlertRelay
