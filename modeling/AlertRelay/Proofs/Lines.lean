import AlertRelay.Log.Setup
import Mathlib.Data.List.Chain

/-! What is shown of written text, line by line. Neither a colour nor a time goes on behind the end
of a line, so whole lines are shown by themselves, and a line without either is shown as it is. -/
namespace AlertRelay.Log

def lineEnd : Nat := 10

/-- Nothing, or whole lines. -/
def WholeLines (t : Text) : Prop := t.codes = [] ∨ ∃ cs, t.codes = cs ++ [lineEnd]

section Replace

variable {after? : List Nat → Option (List Nat)} {mark : List Nat}

def replaced (after? : List Nat → Option (List Nat)) (mark cs : List Nat) : List Nat :=
  replaceAll after? mark cs.length cs

end Replace

theorem WholeLines.append {s t : Text} (hs : WholeLines s) (ht : WholeLines t) : WholeLines (s ++ t) := by
  rcases ht with none | ⟨cs, ended⟩
  · rcases hs with empty | ⟨ds, before⟩
    · exact Or.inl (by rw [Text.codes_append, none, empty]; rfl)
    · exact Or.inr ⟨ds, by rw [Text.codes_append, none, before, List.append_nil]⟩
  · exact Or.inr ⟨s.codes ++ cs, by rw [Text.codes_append, ended, List.append_assoc]⟩

end AlertRelay.Log
