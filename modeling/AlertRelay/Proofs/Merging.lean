import AlertRelay.Alert
import Mathlib.Data.List.Induction

/-! What becomes of pairs when each name is kept once: a name stands where it came first, and has the
value that it came with last. Nothing else fits, since entries with each name once are told by their
names in order and the value of each. -/
namespace AlertRelay

/-- The pairs with each name once. The two fields together leave no choice. -/
structure Merges (ps merged : Fields Text) : Prop where
  names : Ordered.keys merged = (Ordered.keys ps).eraseDups
  last : ∀ before n v after, ps = before ++ (n, v) :: after → n ∉ Ordered.keys after →
    Ordered.get? n merged = some v

namespace Ordered

variable {κ α : Type}

theorem keys_append (p q : List (κ × α)) : keys (p ++ q) = keys p ++ keys q := List.map_append

variable [BEq κ]

theorem update_snoc (m ps : List (κ × α)) (k : κ) (v : α) :
    update m (ps ++ [(k, v)]) = put k v (update m ps) := by
  rw [update_append]
  rfl

theorem ofPairs_snoc (ps : List (κ × α)) (k : κ) (v : α) : ofPairs (ps ++ [(k, v)]) = put k v (ofPairs ps) :=
  update_snoc [] ps k v

variable [LawfulBEq κ]

theorem eraseDups_snoc (ks : List κ) (k : κ) :
    (ks ++ [k]).eraseDups = if k ∈ ks then ks.eraseDups else ks.eraseDups ++ [k] := by
  rw [List.eraseDups_append]
  by_cases known : k ∈ ks
  · simp [List.removeAll, known]
  · simp [List.removeAll, known, List.eraseDups_cons]

theorem keys_ofPairs (ps : List (κ × α)) : keys (ofPairs ps) = (keys ps).eraseDups := by
  induction ps using List.reverseRecOn with
  | nil => rfl
  | append_singleton ps p ih =>
    obtain ⟨k, v⟩ := p
    have single : keys [(k, v)] = [k] := rfl
    rw [ofPairs_snoc, keys_put, keys_append, single, eraseDups_snoc, ih]
    simp only [List.mem_eraseDups]

theorem get?_ofPairs_last (before : List (κ × α)) (n : κ) (v : α) (after : List (κ × α))
    (last : n ∉ keys after) : get? n (ofPairs (before ++ (n, v) :: after)) = some v := by
  induction after using List.reverseRecOn with
  | nil => rw [ofPairs_snoc, get?_put, if_pos (beq_self_eq_true n)]
  | append_singleton after p ih =>
    obtain ⟨k, w⟩ := p
    rw [keys_append, List.mem_append, not_or] at last
    have other : (k == n) = false := by
      apply beq_eq_false_iff_ne.mpr
      intro same
      exact last.2 (same ▸ List.mem_singleton_self k)
    have split : before ++ (n, v) :: (after ++ [(k, w)]) = (before ++ (n, v) :: after) ++ [(k, w)] := by
      rw [List.append_assoc, List.cons_append]
    rw [split, ofPairs_snoc, get?_put, other, ih last.1]
    rfl

/-- The last value of a key counts. -/
theorem get?_ofPairs (k : κ) (ps : List (κ × α)) : get? k (ofPairs ps) = get? k ps.reverse := by
  induction ps using List.reverseRecOn with
  | nil => rfl
  | append_singleton ps p ih =>
    obtain ⟨a, v⟩ := p
    rw [ofPairs_snoc, get?_put, ih, List.reverse_append]
    rfl

theorem mem_put (k : κ) (v : α) (m : List (κ × α)) (p : κ × α) (member : p ∈ put k v m) :
    p = (k, v) ∨ p ∈ m := by
  induction m with
  | nil => exact Or.inl (List.mem_singleton.mp member)
  | cons e r ih =>
    unfold put at member
    split at member
    · rename_i same
      rcases List.mem_cons.mp member with rfl | rest
      · exact Or.inl (by rw [eq_of_beq same])
      · exact Or.inr (List.mem_cons_of_mem e rest)
    · rcases List.mem_cons.mp member with rfl | rest
      · exact Or.inr List.mem_cons_self
      · exact (ih rest).imp_right (List.mem_cons_of_mem e)

theorem mem_ofPairs (ps : List (κ × α)) (p : κ × α) (member : p ∈ ofPairs ps) : p ∈ ps := by
  induction ps using List.reverseRecOn with
  | nil => cases member
  | append_singleton ps q ih =>
    rw [ofPairs_snoc] at member
    rcases mem_put q.1 q.2 _ p member with rfl | earlier
    · exact List.mem_append_right ps List.mem_cons_self
    · exact List.mem_append_left _ (ih earlier)

theorem get?_of_not_mem (k : κ) (m : List (κ × α)) (absent : k ∉ keys m) : get? k m = none := by
  induction m with
  | nil => rfl
  | cons e r ih =>
    obtain ⟨a, v⟩ := e
    simp only [keys, List.map_cons, List.mem_cons, not_or] at absent ih
    have other : (a == k) = false := beq_eq_false_iff_ne.mpr (Ne.symm absent.1)
    simp only [get?, other, Bool.false_eq_true, if_false, ih absent.2]

/-- Entries with each key once are told by their keys and the value of each. -/
theorem ext_of_nodup (m n : List (κ × α)) (distinct : (keys m).Nodup) (same : keys m = keys n)
    (values : ∀ k ∈ keys m, get? k m = get? k n) : m = n := by
  induction m generalizing n with
  | nil =>
    cases n with
    | nil => rfl
    | cons e r => cases same
  | cons e r ih =>
    cases n with
    | nil => cases same
    | cons f s =>
      obtain ⟨a, v⟩ := e
      obtain ⟨b, w⟩ := f
      obtain ⟨rfl, rest⟩ := List.cons.inj same
      obtain ⟨apart, inner⟩ := List.nodup_cons.mp distinct
      have first := values a List.mem_cons_self
      simp only [get?, BEq.rfl, if_true, Option.some.injEq] at first
      have tails : r = s := by
        refine ih s inner rest (fun k member => ?_)
        have other : (a == k) = false := beq_eq_false_iff_ne.mpr (fun e => apart (e ▸ member))
        have value := values k (List.mem_cons_of_mem a member)
        simpa only [get?, other, Bool.false_eq_true, if_false] using value
      rw [first, tails]

theorem exists_last (ps : List (κ × α)) (k : κ) (member : k ∈ keys ps) :
    ∃ before v after, ps = before ++ (k, v) :: after ∧ k ∉ keys after := by
  induction ps with
  | nil => cases member
  | cons p r ih =>
    by_cases later : k ∈ keys r
    · obtain ⟨before, v, after, split, last⟩ := ih later
      exact ⟨p :: before, v, after, by rw [split, List.cons_append], last⟩
    · have here : k = p.1 := (List.mem_cons.mp member).resolve_right later
      exact ⟨[], p.2, r, by rw [here, List.nil_append], later⟩

/-- What is updated keeps its place, and what is new comes after it. -/
theorem keys_update (m q : List (κ × α)) :
    keys (update m q) = keys m ++ (keys (ofPairs q)).filter (fun k => !(keys m).contains k) := by
  induction q using List.reverseRecOn with
  | nil => simp [update, ofPairs, keys]
  | append_singleton q p ih =>
    obtain ⟨k, v⟩ := p
    rw [update_snoc, keys_put, ofPairs_snoc, keys_put, ih]
    by_cases old : k ∈ keys m
    · by_cases known : k ∈ keys (ofPairs q) <;> simp [old, known]
    · by_cases known : k ∈ keys (ofPairs q) <;> simp [old, known]

theorem get?_update (m q : List (κ × α)) (k : κ) :
    get? k (update m q) = (get? k (ofPairs q)).or (get? k m) := by
  induction q using List.reverseRecOn with
  | nil => rfl
  | append_singleton q p ih =>
    obtain ⟨a, v⟩ := p
    rw [update_snoc, get?_put, ofPairs_snoc, get?_put, ih]
    by_cases same : a == k <;> simp [same]

end Ordered

theorem merges_ofPairs (ps : Fields Text) : Merges ps (Labels.ofPairs ps).entries := by
  constructor
  · exact Ordered.keys_ofPairs ps
  · rintro before n v after rfl last
    exact Ordered.get?_ofPairs_last before n v after last

theorem Merges.eq_ofPairs {ps merged : Fields Text} (h : Merges ps merged) :
    merged = (Labels.ofPairs ps).entries := by
  have own := merges_ofPairs ps
  have keys : Ordered.keys merged = Ordered.keys (Labels.ofPairs ps).entries := h.names.trans own.names.symm
  have distinct : (Ordered.keys merged).Nodup := keys ▸ (Labels.ofPairs ps).distinct
  refine Ordered.ext_of_nodup _ _ distinct keys (fun n member => ?_)
  rw [h.names, List.mem_eraseDups] at member
  obtain ⟨before, v, after, split, last⟩ := Ordered.exists_last ps n member
  rw [h.last before n v after split last, own.last before n v after split last]

end AlertRelay
