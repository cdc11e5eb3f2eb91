import AlertRelay.Validation

/-! What data have under a name after an edit. A key that is no text never counts as one, so an edit
under some key can be seen under the name that the key is, and under no other. -/
namespace AlertRelay

theorem beq_text (k : Scalar) (name : Text) : (k == Scalar.text name) = decide (k = .text name) := by
  cases k <;> rfl

theorem text_beq (name : Text) (k : Scalar) : (Scalar.text name == k) = decide (k = .text name) := by
  have swapped : (Scalar.text name == k) = decide (Scalar.text name = k) := by
    cases k <;> rfl
  simp only [swapped, eq_comm]

/-- Keys that count as one are both a name or neither is. -/
theorem ne_text_of_beq {a k : Scalar} {name : Text} (same : (a == k) = true) (other : k ≠ .text name) :
    a ≠ .text name := by
  rintro rfl
  rw [text_beq] at same
  exact other (of_decide_eq_true same)

namespace Raw

theorem get?_cons (k : Scalar) (v : Value) (d : Raw) (name : Text) :
    get? ((k, v) :: d) name = if k = .text name then some v else d.get? name := by
  simp only [get?, Ordered.get?, beq_text, decide_eq_true_eq]

theorem get?_put_same (name : Text) (v : Value) (d : Raw) :
    get? (Ordered.put (.text name) v d) name = some v := by
  induction d with
  | nil => rw [Ordered.put, get?_cons, if_pos rfl]
  | cons e r ih =>
    obtain ⟨a, w⟩ := e
    by_cases here : a = .text name
    · rw [Ordered.put, if_pos (by rw [beq_text, decide_eq_true here]), get?_cons, if_pos here]
    · rw [Ordered.put, if_neg (by rw [beq_text, decide_eq_true_eq]; exact here), get?_cons, if_neg here, ih]

theorem get?_put_other {k : Scalar} {name : Text} (other : k ≠ .text name) (v : Value) (d : Raw) :
    get? (Ordered.put k v d) name = d.get? name := by
  induction d with
  | nil => rw [Ordered.put, get?_cons, if_neg other]
  | cons e r ih =>
    obtain ⟨a, w⟩ := e
    by_cases same : (a == k) = true
    · have apart := ne_text_of_beq same other
      rw [Ordered.put, if_pos same, get?_cons, get?_cons, if_neg apart, if_neg apart]
    · rw [Ordered.put, if_neg same, get?_cons, get?_cons, ih]

theorem get?_erase_same (name : Text) (d : Raw) : get? (Ordered.erase (.text name) d) name = none := by
  induction d with
  | nil => rfl
  | cons e r ih =>
    obtain ⟨a, w⟩ := e
    by_cases here : a = .text name
    · rw [Ordered.erase, List.filter_cons_of_neg (by simp [beq_text, here])]
      exact ih
    · rw [Ordered.erase, List.filter_cons_of_pos (by simp [beq_text, here]), get?_cons, if_neg here]
      exact ih

theorem get?_erase_other {k : Scalar} {name : Text} (other : k ≠ .text name) (d : Raw) :
    get? (Ordered.erase k d) name = d.get? name := by
  induction d with
  | nil => rfl
  | cons e r ih =>
    obtain ⟨a, w⟩ := e
    by_cases same : (a == k) = true
    · rw [Ordered.erase, List.filter_cons_of_neg (by simp [same]), get?_cons, if_neg (ne_text_of_beq same other)]
      exact ih
    · rw [Ordered.erase, List.filter_cons_of_pos (by simp [same]), get?_cons, get?_cons]
      exact congrArg _ ih

variable {α : Type} {check : Value → Checked α} {absent : α} {name : Text} {d e : Raw}

/-- A field hangs on what is under its name. -/
theorem field_congr (same : d.get? name = e.get? name) :
    d.field name check absent = e.field name check absent := by
  unfold field
  rw [same]

theorem field_of_some {v : Value} (found : d.get? name = some v) :
    d.field name check absent = (check v).within (.key name) := by
  unfold field
  rw [found]

theorem field_of_none (missing : d.get? name = none) : d.field name check absent = .ok absent := by
  unfold field
  rw [missing]

variable {other : Text}

theorem aliased_of_some {v : Value} (found : d.get? other = some v) :
    d.aliased other name check absent = (check v).within (.key other) := by
  unfold aliased
  rw [found]

theorem aliased_of_none (missing : d.get? other = none) :
    d.aliased other name check absent = d.field name check absent := by
  unfold aliased
  rw [missing]

end Raw
end AlertRelay
