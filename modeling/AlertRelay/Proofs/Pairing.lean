import AlertRelay.Alert

/-! Building an alert from four lists of texts. The lengths decide whether there is an alert, and
nothing that is checked afterwards refuses one, since every name and value is a text. -/
namespace AlertRelay

theorem sameKey_text (s t : Text) : (Scalar.text s == Scalar.text t) = (s == t) := by
  change decide (Scalar.text s = Scalar.text t) = decide (s = t)
  simp only [Scalar.text.injEq]

theorem members?_texts (ts : List Text) : (Value.texts ts).members? = some (ts.map Value.text) := rfl

def textMap (ps : Fields Text) : Raw := ps.map (fun p => (Scalar.text p.1, Value.text p.2))

theorem pairUp_texts (ns vs : List Text) (kind : Value) :
    pairUp (.texts ns) (.texts vs) kind =
      if ns.length = vs.length then
        .ok ((ns.zip vs).map (fun p => (Value.text p.1, Value.text p.2)))
      else .error (.adapter (.mismatch kind ns.length vs.length)) := by
  simp only [pairUp, members?_texts, List.length_map, List.zip_map]
  rfl

theorem pairEntries_texts (i : Nat) (ps : Fields Text) :
    pairEntries i (ps.map (fun p => Value.tuple [.text p.1, .text p.2])) = .ok (textMap ps) := by
  induction ps generalizing i with
  | nil => rfl
  | cons p r ih =>
    simp only [List.map_cons, pairEntries, Value.members?, ih]
    rfl

theorem mapOf_texts (ps : Fields Text) :
    mapOf (Alert.pairs (ps.map (fun p => (Value.text p.1, Value.text p.2)))) =
      .ok (textMap (Ordered.ofPairs ps)) := by
  have entries := pairEntries_texts 0 ps
  have renamed : Ordered.ofPairs (textMap ps) = textMap (Ordered.ofPairs ps) :=
    Ordered.ofPairs_map Scalar.text Value.text sameKey_text ps
  simp only [Alert.pairs, List.map_map, mapOf, Value.members?]
  simp only [Function.comp_def, entries, Except.map, renamed]

theorem textEntries_texts (ps : Fields Text) : Check.textEntries (textMap ps) = .ok ps := by
  induction ps with
  | nil => rfl
  | cons p r ih =>
    simp only [textMap, List.map_cons] at ih ⊢
    simp only [Check.textEntries, ih]
    rfl

theorem labels_check_texts (ps : Fields Text) :
    Labels.check (.map (textMap (Ordered.ofPairs ps))) = .ok (.ofPairs ps) := by
  have settled : Ordered.ofPairs (Ordered.ofPairs ps) = Ordered.ofPairs ps :=
    Ordered.ofPairs_of_nodup _ (Ordered.nodup_keys_ofPairs ps)
  simp only [Labels.check, Check.textMap, textEntries_texts, Except.map, Labels.ofPairs, settled]

theorem ofPairs_texts (u : Urgency) (ls as : Fields Text) :
    Alert.ofPairs u (Alert.pairs (ls.map (fun p => (Value.text p.1, Value.text p.2))))
      (Alert.pairs (as.map (fun p => (Value.text p.1, Value.text p.2)))) =
      .ok ⟨.ofUrgency u, .ofPairs ls, .ofPairs as⟩ := by
  simp only [Alert.ofPairs, mapOf_texts, Problem.ofMisused_ok, bind, Except.bind,
    labels_check_texts]
  rfl

/-- The labels' lengths are compared first; with both lengths right there is an alert. -/
theorem build_texts (u : Urgency) (ln lv an av : List Text) :
    Alert.build u (.texts ln) (.texts lv) (.texts an) (.texts av) =
      if ln.length ≠ lv.length then
        .error (.adapter (.mismatch (.text "labels") ln.length lv.length))
      else if an.length ≠ av.length then
        .error (.adapter (.mismatch (.text "annotations") an.length av.length))
      else .ok ⟨.ofUrgency u, .ofPairs (ln.zip lv), .ofPairs (an.zip av)⟩ := by
  simp only [Alert.build, pairUp_texts]
  by_cases hl : ln.length = lv.length
  · by_cases ha : an.length = av.length
    · simp only [hl, ha, if_true, ne_eq, not_true_eq_false, if_false]
      exact ofPairs_texts u (ln.zip lv) (an.zip av)
    · simp only [hl, ha, if_true, if_false, ne_eq, not_true_eq_false, not_false_eq_true]
      rfl
  · simp only [hl, if_false, ne_eq, not_false_eq_true, if_true]
    rfl

end AlertRelay
