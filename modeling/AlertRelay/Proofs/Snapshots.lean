import AlertRelay.Live.Session
import AlertRelay.Proofs.Proposals

/-! The last writer wins. The endpoint in force is the one that was stored or accepted last; a batch
that is refused changes nothing; and a snapshot that was kept is never touched, so that
it is still in force as long as nothing was given since. -/
namespace AlertRelay

def Value.isSequence : Value → Bool
  | .map _ | .set _ => false
  | _ => true

namespace Batch

/-- What a batch that is not one endpoint alone is refused for. -/
inductive Refused : Batch → Problem → Prop
  | count (cs : List Candidate) (other : cs.length ≠ 1) :
      Refused (.members cs) (.adapter (.cardinality (.int cs.length)))
  | type (type : String) :
      Refused (.members [.other type]) (.adapter (.configType "AlertmanagerConfig" type))
  | rawSize (v : Value) (none : v.members? = none) : Refused (.raw v) (.misuse (.noSize v.typeName))
  | rawCount (v : Value) (ms : List Value) (members : v.members? = some ms) (other : ms.length ≠ 1) :
      Refused (.raw v) (.adapter (.cardinality (.int ms.length)))
  | rawType (v m : Value) (sequence : v.isSequence = true) (only : v.members? = some [m]) :
      Refused (.raw v) (.adapter (.configType "AlertmanagerConfig" m.typeName))
  | mapType (k : Scalar) (v : Value) (zero : (k == .int 0) = true) :
      Refused (.raw (.map [(k, v)])) (.adapter (.configType "AlertmanagerConfig" v.typeName))
  | mapKey (k : Scalar) (v : Value) (other : (k == .int 0) = false) :
      Refused (.raw (.map [(k, v)])) (.misuse (.noKey (.int 0)))
  | set (k : Scalar) : Refused (.raw (.set [k])) (.misuse (.notSubscriptable "set"))

theorem size_raw (v : Value) (ms : List Value) (members : v.members? = some ms) :
    (Batch.raw v).size = .ok ms.length := by
  simp only [size, Value.size?, members, Option.map_some]

theorem sole_rawCount (v : Value) (ms : List Value) (members : v.members? = some ms)
    (other : ms.length ≠ 1) :
    (Batch.raw v).sole = .error (.adapter (.cardinality (.int ms.length))) := by
  simp only [sole, size_raw v ms members, Problem.ofMisused_ok, bind, Except.bind, if_neg other]

theorem first_sequence (v m : Value) (sequence : v.isSequence = true)
    (only : v.members? = some [m]) : (Batch.raw v).first = .ok (.other m.typeName) := by
  cases v with
  | map es => cases sequence
  | set xs => cases sequence
  | scalar s => simp only [first, only]
  | list xs => simp only [first, only]
  | tuple xs => simp only [first, only]

/-- A value of one member goes by its element zero. -/
theorem sole_raw_one (v : Value) (m : Value) (only : v.members? = some [m]) :
    (Batch.raw v).sole = match (Batch.raw v).first with
      | .ok (.endpoint i) => .ok i
      | .ok (.other type) => .error (.adapter (.configType "AlertmanagerConfig" type))
      | .error x => .error (.misuse x) := by
  simp only [sole, size_raw v [m] only, Problem.ofMisused_ok, bind, Except.bind,
    List.length_singleton, if_true]
  cases (Batch.raw v).first with
  | error x => rfl
  | ok c => cases c <;> rfl

theorem sole_refused (b : Batch) (p : Problem) (h : b.Refused p) : b.sole = .error p := by
  cases h with
  | count cs other => exact sole_of_length cs other
  | type => rfl
  | rawSize v none =>
    simp only [sole, size, Value.size?, none, Option.map_none]
    rfl
  | rawCount v ms members other => exact sole_rawCount v ms members other
  | rawType v m sequence only => rw [sole_raw_one v m only, first_sequence v m sequence only]
  | mapType k v zero =>
    have first : (Batch.raw (.map [(k, v)])).first = .ok (.other v.typeName) := by
      simp only [Batch.first, Ordered.get?, zero, if_true]
    rw [sole_raw_one _ _ rfl, first]
  | mapKey k v other =>
    have first : (Batch.raw (.map [(k, v)])).first = .error (.noKey (.int 0)) := by
      simp only [Batch.first, Ordered.get?, other, Bool.false_eq_true, if_false]
    rw [sole_raw_one _ _ rfl, first]
  | set => rfl

theorem raw_refused (v : Value) : ∃ p, (Batch.raw v).Refused p := by
  cases members : v.members? with
  | none => exact ⟨_, .rawSize v members⟩
  | some ms =>
    by_cases one : ms.length = 1
    · obtain ⟨m, rfl⟩ := List.length_eq_one_iff.mp one
      -- One member alone: whether it is found at zero depends on what kind of value holds it.
      cases v with
      | map es =>
        simp only [Value.members?, Option.some.injEq, List.map_eq_singleton_iff] at members
        obtain ⟨⟨k, w⟩, rfl, _⟩ := members
        cases key : k == Scalar.int 0 with
        | true => exact ⟨_, .mapType k w key⟩
        | false => exact ⟨_, .mapKey k w key⟩
      | set xs =>
        simp only [Value.members?, Option.some.injEq, List.map_eq_singleton_iff] at members
        obtain ⟨k, rfl, _⟩ := members
        exact ⟨_, .set k⟩
      | scalar s => exact ⟨_, .rawType _ m rfl members⟩
      | list xs => exact ⟨_, .rawType _ m rfl members⟩
      | tuple xs => exact ⟨_, .rawType _ m rfl members⟩
    · exact ⟨_, .rawCount v ms members one⟩

theorem refused_of_ne (b : Batch) (other : ∀ i, b ≠ .members [.endpoint i]) : ∃ p, b.Refused p := by
  cases b with
  | raw v => exact raw_refused v
  | members cs =>
    by_cases one : cs.length = 1
    · obtain ⟨c, rfl⟩ := List.length_eq_one_iff.mp one
      cases c with
      | endpoint i => exact absurd rfl (other i)
      | other type => exact ⟨_, .type type⟩
    · exact ⟨_, .count cs one⟩

theorem sole_eq_ok_iff (b : Batch) (i : Issued) : b.sole = .ok i ↔ b = .members [.endpoint i] := by
  constructor
  · intro accepted
    by_cases one : ∃ j, b = .members [.endpoint j]
    · obtain ⟨j, rfl⟩ := one
      exact congrArg (fun k => Batch.members [.endpoint k]) (Except.ok.inj accepted)
    · obtain ⟨p, refused⟩ := b.refused_of_ne (fun j h => one ⟨j, h⟩)
      rw [b.sole_refused p refused] at accepted
      cases accepted
  · intro one
    rw [one]
    rfl

end Batch

namespace Live

/-- The endpoint that a move puts in force. -/
def Move.given? : Move → Option Issued
  | .store i => some i
  | .update (.members [.endpoint i]) => some i
  | _ => none

theorem given?_update (b : Batch) (i : Issued) :
    Move.given? (.update b) = some i ↔ b = .members [.endpoint i] := by
  constructor
  · intro given
    unfold Move.given? at given
    split at given
    · rename_i heq
      cases heq
    · rename_i j heq
      rw [Move.update.inj heq, Option.some.inj given]
    · cases given
  · intro one
    rw [one]
    rfl

namespace Cell

theorem move_accepted (c : Cell) (i : Issued) :
    c.move (.update (.members [.endpoint i])) =
      (⟨⟨i⟩, c.snapshots⟩, ⟨.ok (.current i.endpoint), [Live.updated i.endpoint]⟩) := rfl

theorem move_refused (c : Cell) (b : Batch) (p : Problem) (h : b.Refused p) :
    c.move (.update b) = (c, ⟨.error p, []⟩) := by
  simp only [move, perform, Live.update, Batch.sole_refused b p h, bind, Except.bind]

theorem move_assign (c : Cell) (field : Text) (v : Value) : (c.move (.assign field v)).1 = c := by
  simp only [move, perform]
  cases c.live.assign field v <;> rfl

theorem move_held (c : Cell) (id : Text) : (c.move (.held id)).1 = c := by
  simp only [move, perform]
  cases Fields.get? id c.snapshots <;> rfl

theorem current_move (c : Cell) (m : Move) :
    (c.move m).1.live.current = m.given?.getD c.live.current := by
  cases m with
  | current => rfl
  | hold id => rfl
  | held id => exact congrArg (fun d => d.live.current) (c.move_held id)
  | store i => rfl
  | assign field v => exact congrArg (fun d => d.live.current) (c.move_assign field v)
  | update b =>
    cases given : Move.given? (.update b) with
    | some i =>
      rw [(given?_update b i).mp given]
      rfl
    | none =>
      have other : ∀ i, b ≠ .members [.endpoint i] := by
        intro i h
        rw [(given?_update b i).mpr h] at given
        cases given
      obtain ⟨p, refused⟩ := b.refused_of_ne other
      rw [c.move_refused b p refused, Option.getD_none]

end Cell

/-- No endpoint is given twice. -/
def Fresh (first : Issued) (moves : List Move) : Prop :=
  ((first :: moves.filterMap Move.given?).map Issued.serial).Nodup

end Live
end AlertRelay
