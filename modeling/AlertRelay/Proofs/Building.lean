import AlertRelay.Proofs.Merging
import AlertRelay.Proofs.Pairing
import Mathlib.Data.Finset.Card

/-! Alerts from lists and from pairs. Where the lists agree in length the labels are the names in order
of first appearance, each with the value of its last position. Pairs give the same alert as the lists
they unzip to, its own pairs give it again, and pairs in a row update one map by the other. -/
namespace AlertRelay

theorem Labels.ext {l k : Labels} (same : l.entries = k.entries) : l = k := by
  obtain ⟨entries, _⟩ := l
  obtain ⟨entries₁, _⟩ := k
  cases same
  rfl

/-- Names and values paired by position, each name once. -/
structure Pairing (names values : List Text) (l : Labels) : Prop where
  order : l.names = names.eraseDups
  last : ∀ (i : Nat) n, names[i]? = some n → (∀ j, i < j → names[j]? ≠ some n) → l.get? n = values[i]?
  others : ∀ n, n ∉ names → l.get? n = none
  count : l.entries.length = names.toFinset.card
  full : l.entries.length = names.length ↔ names.Nodup

section Positions

variable {names values : List Text} (even : names.length = values.length)

include even

theorem keys_zip : Ordered.keys (names.zip values) = names := List.map_fst_zip (Nat.le_of_eq even)

theorem zip_split {i : Nat} {n : Text} (here : names[i]? = some n) : ∃ v, values[i]? = some v ∧
    names.zip values = (names.zip values).take i ++ (n, v) :: (names.zip values).drop (i + 1) := by
  obtain ⟨small, same⟩ := List.getElem?_eq_some_iff.mp here
  have bound : i < (names.zip values).length := by
    rw [List.length_zip, ← even, Nat.min_self]
    exact small
  refine ⟨values[i], List.getElem?_eq_getElem _, ?_⟩
  have pair : (names.zip values)[i] = (n, values[i]) := by rw [List.getElem_zip, same]
  rw [← pair, ← List.drop_eq_getElem_cons, List.take_append_drop]

theorem last_of_merges {l : Labels} (h : Merges (names.zip values) l.entries) (i : Nat) (n : Text)
    (here : names[i]? = some n) (last : ∀ j, i < j → names[j]? ≠ some n) : l.get? n = values[i]? := by
  obtain ⟨v, value, split⟩ := zip_split even here
  rw [value]
  refine h.last _ n v _ split (fun later => ?_)
  rw [Ordered.keys, List.map_drop] at later
  have member : n ∈ names.drop (i + 1) := keys_zip even ▸ later
  obtain ⟨j, bound, same⟩ := List.mem_drop_iff_getElem.mp member
  exact last (i + 1 + j) (by omega) (List.getElem?_eq_some_iff.mpr ⟨by omega, same⟩)

theorem Pairing.merges {l : Labels} (h : Pairing names values l) : Merges (names.zip values) l.entries := by
  constructor
  · rw [keys_zip even]
    exact h.order
  · intro before n v after split last
    have pair : (names.zip values)[before.length]? = some (n, v) := by simp [split]
    obtain ⟨name, value⟩ := List.getElem?_zip_eq_some.mp pair
    rw [← value]
    refine h.last before.length n name (fun j later same => last ?_)
    have keys : names = Ordered.keys before ++ n :: Ordered.keys after := by
      rw [← keys_zip even, split, Ordered.keys_append]
      rfl
    obtain ⟨k, rfl⟩ := Nat.exists_eq_add_of_lt later
    rw [keys, List.getElem?_append_right (by simp [Ordered.keys]; omega)] at same
    have shifted : before.length + k + 1 - (Ordered.keys before).length = k + 1 := by
      simp only [Ordered.keys, List.length_map]
      omega
    rw [shifted, List.getElem?_cons_succ] at same
    exact List.mem_of_getElem? same

end Positions

theorem length_of_order {names : List Text} {l : Labels} (order : l.names = names.eraseDups) :
    l.entries.length = names.toFinset.card := by
  have same : names.toFinset = l.names.toFinset := by
    ext n
    rw [order]
    simp only [List.mem_toFinset, List.mem_eraseDups]
  have size : l.names.toFinset.card = l.names.length := List.toFinset_card_of_nodup l.distinct
  rw [same, size]
  exact (List.length_map Prod.fst).symm

theorem card_eq_length_iff (names : List Text) : names.toFinset.card = names.length ↔ names.Nodup :=
  Multiset.toFinset_card_eq_card_iff_nodup (m := (names : Multiset Text))

/-- The fields together leave no choice. -/
theorem pairing_iff {names values : List Text} (even : names.length = values.length) (l : Labels) :
    Pairing names values l ↔ l = .ofPairs (names.zip values) := by
  constructor
  · intro pairing
    exact Labels.ext (pairing.merges even).eq_ofPairs
  · rintro rfl
    have merged := merges_ofPairs (names.zip values)
    have order : (Labels.ofPairs (names.zip values)).names = names.eraseDups :=
      merged.names.trans (congrArg List.eraseDups (keys_zip even))
    have count := length_of_order order
    refine ⟨order, last_of_merges even merged, fun n absent => ?_, count, ?_⟩
    · refine Ordered.get?_of_not_mem n _ (fun member => absent ?_)
      rwa [← List.mem_eraseDups, ← order]
    · rw [count]
      exact card_eq_length_iff names

/-- Pairs as a caller gives them. -/
def pairsOf (ps : Fields Text) : Value := Alert.pairs (ps.map (fun p => (Value.text p.1, Value.text p.2)))

/-- Old names keep their place and take a new value if there is one; new names follow in their order. -/
structure Updated (old new merged : Labels) : Prop where
  names : merged.names = old.names ++ new.names.filter (fun n => !old.names.contains n)
  value : ∀ n, merged.get? n = (new.get? n).or (old.get? n)

theorem updated_append (ps qs : Fields Text) :
    Updated (.ofPairs ps) (.ofPairs qs) (.ofPairs (ps ++ qs)) := by
  have entries : (Labels.ofPairs (ps ++ qs)).entries = Ordered.update (Labels.ofPairs ps).entries qs :=
    Ordered.ofPairs_append ps qs
  constructor
  · rw [Labels.names, entries]
    exact Ordered.keys_update _ qs
  · intro n
    rw [Labels.get?, entries]
    exact Ordered.get?_update _ qs n

theorem build_unzipped (u : Urgency) (ps qs : Fields Text) :
    Alert.build u (.texts (ps.map Prod.fst)) (.texts (ps.map Prod.snd)) (.texts (qs.map Prod.fst))
      (.texts (qs.map Prod.snd)) = .ok ⟨.ofUrgency u, .ofPairs ps, .ofPairs qs⟩ := by
  have zipped (ps : Fields Text) : (ps.map Prod.fst).zip (ps.map Prod.snd) = ps :=
    (List.zip_of_prod rfl rfl).symm
  rw [build_texts, if_neg (by simp), if_neg (by simp), zipped, zipped]

theorem Labels.ofPairs_own (l : Labels) : Labels.ofPairs l.entries = l :=
  Labels.ext (Ordered.ofPairs_of_nodup l.entries l.distinct)

namespace Alert

theorem built_exactly (level : Level) (ln lv an av : List Text) :
    let built := Alert.build (.level level) (.texts ln) (.texts lv) (.texts an) (.texts av)
    ((∃ kind names values, built = .error (.adapter (.labelMismatch kind names values))) ↔
      ln.length ≠ lv.length ∨ an.length ≠ av.length) ∧
    (ln.length ≠ lv.length →
      built = .error (.adapter (.mismatch (.text "labels") ln.length lv.length))) ∧
    (ln.length = lv.length → an.length ≠ av.length →
      built = .error (.adapter (.mismatch (.text "annotations") an.length av.length))) ∧
    (ln.length = lv.length → an.length = av.length → ∃ a, built = .ok a ∧
      a.status = (if level = .ok then .resolved else .firing) ∧
      (∀ l, Pairing ln lv l ↔ l = a.labels) ∧ (∀ l, Pairing an av l ↔ l = a.annotations)) := by
  intro built
  have cases := build_texts (.level level) ln lv an av
  have first (uneven : ln.length ≠ lv.length) :
      built = .error (.adapter (.mismatch (.text "labels") ln.length lv.length)) :=
    cases.trans (if_pos uneven)
  have second (even : ln.length = lv.length) (uneven : an.length ≠ av.length) :
      built = .error (.adapter (.mismatch (.text "annotations") an.length av.length)) :=
    cases.trans ((if_neg (not_not_intro even)).trans (if_pos uneven))
  have third (even : ln.length = lv.length) (even₁ : an.length = av.length) :
      built = .ok ⟨.ofUrgency (.level level), .ofPairs (ln.zip lv), .ofPairs (an.zip av)⟩ :=
    cases.trans ((if_neg (not_not_intro even)).trans (if_neg (not_not_intro even₁)))
  refine ⟨⟨?_, ?_⟩, first, second, fun even even₁ => ?_⟩
  · rintro ⟨kind, names, values, mismatch⟩
    by_cases even : ln.length = lv.length
    · by_cases even₁ : an.length = av.length
      · rw [third even even₁] at mismatch
        cases mismatch
      · exact Or.inr even₁
    · exact Or.inl even
  · rintro (uneven | uneven)
    · exact ⟨_, _, _, first uneven⟩
    · by_cases even : ln.length = lv.length
      · exact ⟨_, _, _, second even uneven⟩
      · exact ⟨_, _, _, first even⟩
  · refine ⟨_, third even even₁, ?_, pairing_iff even, pairing_iff even₁⟩
    cases level <;> rfl

/-- A name given twice keeps its place and its last value; of two mismatches the labels' is told. -/
theorem repeated_name_built :
    let names : List Text := ["a", "b", "a"]
    let values : List Text := ["1", "2", "3"]
    (∃ a, Alert.build (.level .warning) (.texts names) (.texts values) (.texts ["s"]) (.texts ["x"]) = .ok a ∧
      a.status = .firing ∧ a.labels.names = ["a", "b"] ∧ a.labels.get? "a" = some "3" ∧
      a.labels.entries.length = 2 ∧ a.annotations.get? "s" = some "x") ∧
    Alert.build (.level .ok) (.texts names) (.texts []) (.texts []) (.texts ["x"]) =
      .error (.adapter (.mismatch (.text "labels") 3 0)) := by
  intro names values
  obtain ⟨_, _, _, even⟩ := built_exactly .warning names values ["s"] ["x"]
  obtain ⟨_, uneven, _⟩ := built_exactly .ok names [] [] ["x"]
  obtain ⟨a, built, status, labels, annotations⟩ := even (by decide) (by decide)
  have label := (labels a.labels).mpr rfl
  have annotation := (annotations a.annotations).mpr rfl
  refine ⟨⟨a, built, status, label.order, ?_, label.count, ?_⟩, uneven (by decide)⟩
  · refine label.last 2 "a" rfl (fun j later same => ?_)
    obtain ⟨small, _⟩ := List.getElem?_eq_some_iff.mp same
    exact absurd small (Nat.not_lt_of_le later)
  · refine annotation.last 0 "s" rfl (fun j later same => ?_)
    obtain ⟨small, _⟩ := List.getElem?_eq_some_iff.mp same
    exact absurd small (Nat.not_lt_of_le later)

theorem builders_agree (level : Level) (ps more qs : Fields Text) : ∃ a b c : Alert,
    build (.level level) (.texts (ps.map Prod.fst)) (.texts (ps.map Prod.snd))
      (.texts (qs.map Prod.fst)) (.texts (qs.map Prod.snd)) = .ok a ∧
    ofPairs (.level level) (pairsOf ps) (pairsOf qs) = .ok a ∧
    ofPairs (.level level) (pairsOf a.labels.entries) (pairsOf a.annotations.entries) = .ok a ∧
    build (.level level) (.texts (a.labels.entries.map Prod.fst)) (.texts (a.labels.entries.map Prod.snd))
      (.texts (a.annotations.entries.map Prod.fst)) (.texts (a.annotations.entries.map Prod.snd)) = .ok a ∧
    ofPairs (.level level) (pairsOf more) (pairsOf qs) = .ok b ∧
    ofPairs (.level level) (pairsOf (ps ++ more)) (pairsOf qs) = .ok c ∧
    Updated a.labels b.labels c.labels ∧ c.status = a.status ∧ c.annotations = a.annotations := by
  refine ⟨⟨.ofUrgency (.level level), .ofPairs ps, .ofPairs qs⟩, _, _, build_unzipped _ ps qs,
    ofPairs_texts _ ps qs, ?_, ?_, ofPairs_texts _ more qs, ofPairs_texts _ (ps ++ more) qs,
    updated_append ps more, rfl, rfl⟩
  · rw [pairsOf, pairsOf, ofPairs_texts, Labels.ofPairs_own, Labels.ofPairs_own]
  · rw [build_unzipped, Labels.ofPairs_own, Labels.ofPairs_own]

end Alert
end AlertRelay
