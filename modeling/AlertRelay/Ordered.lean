/-! Association lists in order of first insertion. A key that is put again keeps
its place and takes the new value, so the last value of a key is the one read. -/
namespace AlertRelay.Ordered

variable {κ α : Type} [BEq κ]

def get? (k : κ) : List (κ × α) → Option α
  | [] => none
  | (k₁, v) :: r => if k₁ == k then some v else get? k r

/-- Sets a key: in place when it is there, at the end otherwise. -/
def put (k : κ) (v : α) : List (κ × α) → List (κ × α)
  | [] => [(k, v)]
  | (k₁, v₁) :: r => if k₁ == k then (k₁, v) :: r else (k₁, v₁) :: put k v r

def update (m new : List (κ × α)) : List (κ × α) :=
  new.foldl (fun m p => put p.1 p.2 m) m

def ofPairs (ps : List (κ × α)) : List (κ × α) := update [] ps

def keys (m : List (κ × α)) : List κ := m.map Prod.fst

def has (k : κ) (m : List (κ × α)) : Bool := (get? k m).isSome

def erase (k : κ) (m : List (κ × α)) : List (κ × α) := m.filter (fun p => !(p.1 == k))

theorem update_append (m p q : List (κ × α)) : update m (p ++ q) = update (update m p) q := by
  simp [update, List.foldl_append]

theorem ofPairs_append (p q : List (κ × α)) : ofPairs (p ++ q) = update (ofPairs p) q :=
  update_append [] p q

/- Keys and values may be renamed first or last, as long as keys stay apart. -/
theorem put_map {κ₁ β : Type} [BEq κ₁] (f : κ → κ₁) (g : α → β)
    (faithful : ∀ a b, (f a == f b) = (a == b)) (k : κ) (v : α) (m : List (κ × α)) :
    put (f k) (g v) (m.map (fun p => (f p.1, g p.2))) =
      (put k v m).map (fun p => (f p.1, g p.2)) := by
  induction m with
  | nil => rfl
  | cons e r ih =>
    simp only [List.map_cons, put, faithful]
    by_cases h : e.1 == k
    · simp only [h, if_true, List.map_cons]
    · simp only [h, Bool.false_eq_true, if_false, List.map_cons, ih]

theorem update_map {κ₁ β : Type} [BEq κ₁] (f : κ → κ₁) (g : α → β)
    (faithful : ∀ a b, (f a == f b) = (a == b)) (m new : List (κ × α)) :
    update (m.map (fun p => (f p.1, g p.2))) (new.map (fun p => (f p.1, g p.2))) =
      (update m new).map (fun p => (f p.1, g p.2)) := by
  induction new generalizing m with
  | nil => rfl
  | cons p r ih =>
    simp only [update, List.map_cons, List.foldl_cons] at ih ⊢
    rw [put_map f g faithful, ih]

theorem ofPairs_map {κ₁ β : Type} [BEq κ₁] (f : κ → κ₁) (g : α → β)
    (faithful : ∀ a b, (f a == f b) = (a == b)) (ps : List (κ × α)) :
    ofPairs (ps.map (fun p => (f p.1, g p.2))) = (ofPairs ps).map (fun p => (f p.1, g p.2)) :=
  update_map f g faithful [] ps

variable [LawfulBEq κ]

theorem get?_put (k k₁ : κ) (v : α) (m : List (κ × α)) :
    get? k₁ (put k v m) = if k == k₁ then some v else get? k₁ m := by
  induction m with
  | nil => simp [put, get?]
  | cons e r ih =>
    obtain ⟨a, w⟩ := e
    by_cases h : a == k
    · have e₁ : a = k := eq_of_beq h
      subst e₁
      by_cases h₁ : a == k₁ <;> simp [put, get?, h₁]
    · by_cases h₁ : a == k₁
      · have e₁ : a = k₁ := eq_of_beq h₁
        subst e₁
        have h₂ : ¬ (k == a) := fun h₂ => h (by simp [eq_of_beq h₂])
        simp [put, get?, h, h₂]
      · simp [put, get?, h, h₁, ih]

theorem keys_put (k : κ) (v : α) (m : List (κ × α)) :
    keys (put k v m) = if k ∈ keys m then keys m else keys m ++ [k] := by
  induction m with
  | nil => simp [put, keys]
  | cons e r ih =>
    obtain ⟨a, w⟩ := e
    by_cases h : a == k
    · have e₁ : a = k := eq_of_beq h
      subst e₁
      simp [put, keys]
    · have h₁ : k ≠ a := fun e => h (by simp [e])
      simp only [put, h, keys, List.map_cons] at ih ⊢
      by_cases hk : k ∈ r.map Prod.fst <;> simp_all

theorem nodup_keys_put (k : κ) (v : α) (m : List (κ × α)) (h : (keys m).Nodup) :
    (keys (put k v m)).Nodup := by
  rw [keys_put]
  split
  · exact h
  · next hk =>
    rw [List.nodup_append]
    refine ⟨h, by simp, fun a ha b hb e => hk ?_⟩
    rw [List.mem_singleton] at hb
    rwa [← hb, ← e]

theorem nodup_keys_update (m new : List (κ × α)) (h : (keys m).Nodup) :
    (keys (update m new)).Nodup := by
  induction new generalizing m with
  | nil => exact h
  | cons p r ih => exact ih _ (nodup_keys_put p.1 p.2 m h)

theorem nodup_keys_ofPairs (ps : List (κ × α)) : (keys (ofPairs ps)).Nodup :=
  nodup_keys_update [] ps (by simp [keys])

theorem put_of_not_mem (k : κ) (v : α) (m : List (κ × α)) (new : k ∉ keys m) :
    put k v m = m ++ [(k, v)] := by
  induction m with
  | nil => rfl
  | cons e r ih =>
    simp only [keys, List.map_cons, List.mem_cons, not_or] at new ih
    have h : (e.1 == k) = false := beq_eq_false_iff_ne.mpr (Ne.symm new.1)
    simp [put, h, ih new.2]

theorem update_of_nodup (m new : List (κ × α)) (h : (keys (m ++ new)).Nodup) :
    update m new = m ++ new := by
  induction new generalizing m with
  | nil => simp [update]
  | cons p r ih =>
    have apart : p.1 ∉ keys m := by
      intro hp
      simp only [keys, List.map_append, List.map_cons] at h hp
      exact (List.nodup_append.mp h).2.2 p.1 hp p.1 (by simp) rfl
    have same : m ++ [p] ++ r = m ++ p :: r := by simp
    calc update m (p :: r) = update (put p.1 p.2 m) r := rfl
      _ = update (m ++ [p]) r := by rw [put_of_not_mem p.1 p.2 m apart]
      _ = m ++ p :: r := by rw [ih (m ++ [p]) (same ▸ h), same]

theorem ofPairs_of_nodup (ps : List (κ × α)) (h : (keys ps).Nodup) : ofPairs ps = ps :=
  update_of_nodup [] ps h

end AlertRelay.Ordered
