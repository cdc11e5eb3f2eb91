import AlertRelay.Proofs.Cleanup

/-! Items of the form name=value. A list of them is read as the names and values that it is written of, in
order and with nothing lost. Any other list is refused for the first item in it that is malformed. -/
namespace AlertRelay.SelfTest

/-- A name that can stand before the sign. -/
def IsName (n : Text) : Prop := n.codes ≠ [] ∧ sign ∉ n.codes

/-- An item is cut at its first sign, so a value may hold more of them. -/
theorem exists_pair (item : Text) (formed : ¬ Malformed item) :
    ∃ p : Text × Text, item = Token.item p ∧ IsName p.1 := by
  have signed : sign ∈ item.codes := Classical.not_not.mp (fun signless => formed (Or.inl signless))
  obtain ⟨name, value, codes, first⟩ := List.eq_append_cons_of_mem signed
  have named : name ≠ [] := by
    rintro rfl
    exact formed (Or.inr (congrArg List.head? codes))
  refine ⟨(⟨name⟩, ⟨value⟩), ?_, named, first⟩
  have same : item.codes = (Token.item (⟨name⟩, ⟨value⟩)).codes :=
    codes.trans (codes_signed ⟨name⟩ ⟨value⟩).symm
  exact congrArg Text.mk same

theorem exists_pairs (items : List Text) (formed : ∀ item ∈ items, ¬ Malformed item) :
    ∃ ps : Fields Text, items = ps.map Token.item ∧ ∀ p ∈ ps, IsName p.1 := by
  induction items with
  | nil => exact ⟨[], rfl, List.forall_mem_nil _⟩
  | cons i r ih =>
    obtain ⟨p, written, named⟩ := exists_pair i (formed i List.mem_cons_self)
    obtain ⟨ps, rest, names⟩ := ih (fun item member => formed item (List.mem_cons_of_mem i member))
    refine ⟨p :: ps, by rw [written, rest, List.map_cons], ?_⟩
    exact List.forall_mem_cons.mpr ⟨named, names⟩

/-- Exactly what is written of pairs is read, and as these pairs. -/
theorem splitPairs_eq_ok_iff (items : List Text) (flag : Text) (ls : List Text × List Text) :
    splitPairs items flag = .ok ls ↔ ∃ ps : Fields Text, (∀ p ∈ ps, IsName p.1) ∧
      items = ps.map Token.item ∧ ls = (ps.map Prod.fst, ps.map Prod.snd) := by
  constructor
  · intro read
    obtain ⟨ps, written, names⟩ := exists_pairs items (splitPairs_accepted items flag ls read)
    refine ⟨ps, names, written, ?_⟩
    rw [written, splitPairs_items ps flag names] at read
    exact (Except.ok.inj read).symm
  · rintro ⟨ps, names, rfl, rfl⟩
    exact splitPairs_items ps flag names

theorem splitPairs_refused (before after : List Text) (item flag : Text)
    (formed : ∀ i ∈ before, ¬ Malformed i) (malformed : Malformed item) :
    splitPairs (before ++ item :: after) flag = .error (refusal flag item) := by
  induction before with
  | nil => simp only [List.nil_append, splitPairs, pair?_malformed item malformed]
  | cons i r ih =>
    obtain ⟨p, rfl, named⟩ := exists_pair i (formed i List.mem_cons_self)
    have rest := ih (fun j member => formed j (List.mem_cons_of_mem _ member))
    simp only [List.cons_append, splitPairs, pair?_item p named.1 named.2, rest]
    rfl

theorem exists_first_malformed (items : List Text) (spoilt : ∃ item ∈ items, Malformed item) :
    ∃ before item after, items = before ++ item :: after ∧ (∀ i ∈ before, ¬ Malformed i) ∧
      Malformed item := by
  induction items with
  | nil => simp at spoilt
  | cons i r ih =>
    by_cases here : Malformed i
    · exact ⟨[], i, r, rfl, List.forall_mem_nil _, here⟩
    · obtain ⟨item, member, malformed⟩ := spoilt
      have later : item ∈ r := (List.mem_cons.mp member).resolve_left (fun same => here (same ▸ malformed))
      obtain ⟨before, j, after, split, formed, first⟩ := ih ⟨item, later, malformed⟩
      refine ⟨i :: before, j, after, by rw [split, List.cons_append], ?_, first⟩
      exact List.forall_mem_cons.mpr ⟨here, formed⟩

/-- Items are read exactly if each of them holds a sign and does not begin with one. There are then as many
names and values as items, and each item is its name, the sign and its value. What is written of names
and values is read as these, with any value. Otherwise the text names the flag and the first item
that is malformed. -/
theorem items_read_as_written (items : List Text) (flag : Text) :
    ((∃ names values, splitPairs items flag = .ok (names, values)) ↔
      ∀ item ∈ items, sign ∈ item.codes ∧ item.codes.head? ≠ some sign) ∧
    (∀ names values, splitPairs items flag = .ok (names, values) →
      names.length = items.length ∧ values.length = items.length ∧
      ∀ (i : Nat) (item : Text), items[i]? = some item → ∃ name value : Text,
        names[i]? = some name ∧ values[i]? = some value ∧ item = name ++ "=" ++ value ∧
        name.codes ≠ [] ∧ sign ∉ name.codes) ∧
    (∀ ps : List (Text × Text), (∀ p ∈ ps, p.1.codes ≠ [] ∧ sign ∉ p.1.codes) →
      splitPairs (ps.map (fun p => p.1 ++ "=" ++ p.2)) flag = .ok (ps.map Prod.fst, ps.map Prod.snd)) ∧
    ((¬ ∀ item ∈ items, sign ∈ item.codes ∧ item.codes.head? ≠ some sign) →
      ∃ before item after, items = before ++ item :: after ∧
        (∀ i ∈ before, sign ∈ i.codes ∧ i.codes.head? ≠ some sign) ∧
        (sign ∉ item.codes ∨ item.codes.head? = some sign) ∧
        splitPairs items flag = .error (flag ++ " expects name=value, got " ++ item.quote)) := by
  have formed_iff (item : Text) : (sign ∈ item.codes ∧ item.codes.head? ≠ some sign) ↔ ¬ Malformed item := by
    simp only [Malformed, not_or, Classical.not_not, ne_eq]
  simp only [formed_iff]
  refine ⟨⟨?_, ?_⟩, ?_, fun ps names => splitPairs_items ps flag names, ?_⟩
  · rintro ⟨names, values, read⟩
    exact splitPairs_accepted items flag _ read
  · intro formed
    obtain ⟨ps, written, names⟩ := exists_pairs items formed
    exact ⟨_, _, (splitPairs_eq_ok_iff items flag _).mpr ⟨ps, names, written, rfl⟩⟩
  · intro names values read
    obtain ⟨ps, named, rfl, same⟩ := (splitPairs_eq_ok_iff items flag _).mp read
    cases same
    refine ⟨by simp only [List.length_map], by simp only [List.length_map], fun i item at_ => ?_⟩
    rw [List.getElem?_map, Option.map_eq_some_iff] at at_
    obtain ⟨p, found, rfl⟩ := at_
    obtain ⟨name, signless⟩ := named p (List.mem_of_getElem? found)
    exact ⟨p.1, p.2, by rw [List.getElem?_map, found]; rfl, by rw [List.getElem?_map, found]; rfl, rfl,
      name, signless⟩
  · intro unformed
    have spoilt : ∃ item ∈ items, Malformed item := by simpa using unformed
    obtain ⟨before, item, after, rfl, formed, malformed⟩ := exists_first_malformed items spoilt
    have refused := splitPairs_refused before after item flag formed malformed
    exact ⟨before, item, after, rfl, formed, malformed, refused⟩

/-- Values that hold a sign or nothing, and then an item without a name before one without a sign. -/
theorem later_signs_kept :
    let items : List Text := ["query=a=b", "note=", "eq==="]
    let wrong : List Text := ["severity=page", "=spare", "plain"]
    splitPairs items "--label" = .ok (["query", "note", "eq"], ["a=b", "", "=="]) ∧
      (∃ name value : Text, (["query", "note", "eq"] : List Text)[2]? = some name ∧
        (["a=b", "", "=="] : List Text)[2]? = some value ∧ "eq===" = name ++ "=" ++ value) ∧
      splitPairs wrong "--label" = .error "--label expects name=value, got '=spare'" ∧
      ∃ item ∈ wrong, (sign ∉ item.codes ∨ item.codes.head? = some sign) ∧
        splitPairs wrong "--label" = .error ("--label" ++ " expects name=value, got " ++ item.quote : Text) := by
  intro items wrong
  obtain ⟨_, each, back, _⟩ := items_read_as_written items "--label"
  have read := back [("query", "a=b"), ("note", ""), ("eq", "==")] (by decide)
  obtain ⟨_, _, whole⟩ := each _ _ read
  obtain ⟨name, value, name_at, value_at, written, _⟩ := whole 2 "eq===" rfl
  obtain ⟨_, _, _, refuses⟩ := items_read_as_written wrong "--label"
  obtain ⟨before, item, after, split, _, malformed, refused⟩ := refuses (by decide)
  have member : item ∈ wrong := split ▸ List.mem_append_right before List.mem_cons_self
  exact ⟨read, ⟨name, value, name_at, value_at, written⟩, by decide +kernel, item, member, malformed, refused⟩

end AlertRelay.SelfTest
