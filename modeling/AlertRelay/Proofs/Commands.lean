import AlertRelay.SelfTest.Arguments
import Mathlib.Data.List.Induction

/-! Command lines are understood as they were written. Options with their arguments, in one word or in
two and in any order, give the arguments that were written: the last one where one counts, and
all in order where each does. -/
namespace AlertRelay.SelfTest

/-- An option with its argument, joined to it by a sign or as the next word. -/
structure Written where
  flag : Flag
  value : Text
  joined : Bool

namespace Written

def spelling : Flag → Text
  | .help => "--help"
  | .config => "--config"
  | .logLevel => "--log-level"
  | .room => "--room"
  | .label => "--label"
  | .remark => "--annotation"

def words (o : Written) : List Text :=
  if o.joined then [spelling o.flag ++ "=" ++ o.value] else [spelling o.flag, o.value]

/-- The option takes an argument, and one that stands apart is not taken for something else. -/
structure Sound (o : Written) : Prop where
  argued : o.flag ≠ .help
  apart : o.joined = false → Arguments.classify o.value = .ok .argument

def valuesOf (f : Flag) (os : List Written) : List Text := (os.filter (fun o => o.flag = f)).map value

/-- What a command line gives that is written so. -/
def gathered (os : List Written) : Arguments :=
  ⟨(valuesOf .config os).getLast?, (valuesOf .logLevel os).getLast?, (valuesOf .room os).getLast?,
    valuesOf .label os, valuesOf .remark os⟩

end Written

theorem takeWhile_sign (cs rest : List Nat) (none : sign ∉ cs) :
    (cs ++ sign :: rest).takeWhile (· ≠ sign) = cs := by
  induction cs with
  | nil => simp
  | cons c r ih =>
    simp only [List.mem_cons, not_or] at none
    have other : c ≠ sign := Ne.symm none.1
    simp only [List.cons_append, List.takeWhile_cons, other, ne_eq, not_false_eq_true, decide_true, if_true,
      ih none.2]

theorem dropWhile_sign (cs rest : List Nat) (none : sign ∉ cs) :
    (cs ++ sign :: rest).dropWhile (· ≠ sign) = sign :: rest := by
  induction cs with
  | nil => simp
  | cons c r ih =>
    simp only [List.mem_cons, not_or] at none
    have other : c ≠ sign := Ne.symm none.1
    simp only [List.cons_append, List.dropWhile_cons, other, ne_eq, not_false_eq_true, decide_true, if_true,
      ih none.2]

theorem codes_signed (s v : Text) : (s ++ "=" ++ v).codes = s.codes ++ sign :: v.codes := by
  rw [Text.codes_append, Text.codes_append, List.append_assoc]
  rfl

theorem signed_ne (s v t : Text) (signless : sign ∉ t.codes) : s ++ "=" ++ v ≠ t := by
  intro same
  apply signless
  rw [← same, codes_signed]
  exact List.mem_append_right _ List.mem_cons_self

namespace Arguments

theorem spelled_signed (s v : Text) : spelled (s ++ "=" ++ v) = none := by
  have signless : ∀ p ∈ spellings, sign ∉ p.1.codes := by decide
  apply List.lookup_eq_none_iff.mpr
  intro p known
  exact bne_iff_ne.mpr (signed_ne s v p.1 (signless p known))

theorem cut_signed (s v : Text) (signless : sign ∉ s.codes) : cut (s ++ "=" ++ v) = (s, some v) := by
  unfold cut
  rw [codes_signed, dropWhile_sign _ _ signless, takeWhile_sign _ _ signless]

open Written

theorem classify_joined (f : Flag) (v : Text) :
    classify (spelling f ++ "=" ++ v) = .ok (.option f (spelling f) (some v)) := by
  have signless : sign ∉ (spelling f).codes := by cases f <;> decide
  have known : spelled (spelling f) = some f := by cases f <;> decide
  have dashed : (spelling f ++ "=" ++ v).startsWith "-" = true := by cases f <;> rfl
  have dashes : spelling f ++ "=" ++ v ≠ "--" := signed_ne _ v _ (by decide)
  have dash : spelling f ++ "=" ++ v ≠ "-" := signed_ne _ v _ (by decide)
  unfold classify
  rw [if_neg dashes, if_neg (by simp [dashed, dash])]
  simp only [spelled_signed, cut_signed _ v signless, known, Option.map_some]

theorem classify_spelling (f : Flag) : classify (spelling f) = .ok (.option f (spelling f) none) := by
  cases f <;> rfl

/-- What the words of an option are taken for. -/
def taken (o : Written) : List (Text × Word) :=
  if o.joined then [(spelling o.flag ++ "=" ++ o.value, .option o.flag (spelling o.flag) (some o.value))]
  else [(spelling o.flag, .option o.flag (spelling o.flag) none), (o.value, .argument)]

theorem classifyAll_cons (w : Text) (r : List Text) (k : Word) (known : classify w = .ok k)
    (more : k ≠ .dashes) : classifyAll (w :: r) = (classifyAll r).map ((w, k) :: ·) := by
  simp only [classifyAll, known, bind, Except.bind]
  cases k with
  | dashes => exact absurd rfl more
  | argument | unknown | option => cases classifyAll r <;> rfl

theorem classifyAll_words (o : Written) (sound : o.Sound) (r : List Text) :
    classifyAll (o.words ++ r) = (classifyAll r).map (taken o ++ ·) := by
  unfold words taken
  cases joined : o.joined with
  | true =>
    rw [if_pos rfl, if_pos rfl, List.singleton_append,
      classifyAll_cons _ r _ (classify_joined o.flag o.value) Word.noConfusion]
    rfl
  | false =>
    rw [if_neg Bool.false_ne_true, if_neg Bool.false_ne_true, List.cons_append, List.singleton_append,
      classifyAll_cons _ _ _ (classify_spelling o.flag) Word.noConfusion,
      classifyAll_cons _ r _ (sound.apart joined) Word.noConfusion]
    cases classifyAll r <;> rfl

theorem classifyAll_written (os : List Written) (sound : ∀ o ∈ os, o.Sound) :
    classifyAll (os.flatMap words) = .ok (os.flatMap taken) := by
  induction os with
  | nil => rfl
  | cons o r ih =>
    have rest := ih (fun p member => sound p (List.mem_cons_of_mem o member))
    rw [List.flatMap_cons, classifyAll_words o (sound o List.mem_cons_self), rest]
    rfl

theorem collect_taken (a : Arguments) (left : List Text) (o : Written) (sound : o.Sound)
    (r : List (Text × Word)) : collect a left (taken o ++ r) = collect (a.give o.flag o.value) left r := by
  have argued := sound.argued
  unfold taken
  cases o.joined with
  | true =>
    rw [if_pos rfl, List.singleton_append]
    cases flag : o.flag with
    | help => exact absurd flag argued
    | _ => simp only [collect]
  | false =>
    rw [if_neg Bool.false_ne_true, List.cons_append, List.singleton_append]
    cases flag : o.flag with
    | help => exact absurd flag argued
    | _ => simp only [collect]

theorem collect_written (a : Arguments) (os : List Written) (sound : ∀ o ∈ os, o.Sound) :
    collect a [] (os.flatMap taken) = .ok (os.foldl (fun a o => a.give o.flag o.value) a, []) := by
  induction os generalizing a with
  | nil => rfl
  | cons o r ih =>
    rw [List.flatMap_cons, collect_taken a [] o (sound o List.mem_cons_self), List.foldl_cons]
    exact ih _ (fun p member => sound p (List.mem_cons_of_mem o member))

end Arguments

namespace Written

theorem valuesOf_snoc (f : Flag) (os : List Written) (o : Written) :
    valuesOf f (os ++ [o]) = valuesOf f os ++ if o.flag = f then [o.value] else [] := by
  unfold valuesOf
  rw [List.filter_append, List.map_append]
  by_cases same : o.flag = f <;> simp [same]

theorem foldl_give (os : List Written) (sound : ∀ o ∈ os, o.Sound) :
    os.foldl (fun a o => a.give o.flag o.value) .nothing = gathered os := by
  -- From the end, since the last of an option decides.
  induction os using List.reverseRecOn with
  | nil => rfl
  | append_singleton os o ih =>
    have earlier := ih (fun p member => sound p (List.mem_append_left _ member))
    have argued := (sound o (List.mem_append_right _ List.mem_cons_self)).argued
    rw [List.foldl_append, earlier, List.foldl_cons, List.foldl_nil]
    simp only [gathered, valuesOf_snoc]
    cases flag : o.flag with
    | help => exact absurd flag argued
    | _ => simp [Arguments.give]

end Written

/-- A command line of options is understood as it was written. -/
theorem parse_written (os : List Written) (sound : ∀ o ∈ os, o.Sound) :
    Arguments.parse (os.flatMap Written.words) = .ok (Written.gathered os) := by
  unfold Arguments.parse
  rw [Arguments.classifyAll_written os sound]
  simp only [bind, Except.bind, Arguments.collect_written _ os sound, Written.foldl_give os sound]
  rfl

end AlertRelay.SelfTest
