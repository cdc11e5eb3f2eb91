import AlertRelay.Cache.Session

/-! What a cache keeps. The files and the environment may change before every step; what is kept is
what a load, a reload or a get that found nothing kept took from them last, unless it was
forgotten since. A step that fails keeps nothing new and loses nothing. -/
namespace AlertRelay

/-- What the file holds that a path stands for now. -/
def Surroundings.read (w : Surroundings) (given : Option Text) : Except Problem Settings :=
  Settings.read w.files (settingsPath given w.configured)

/-- Settings can be compared, and problems cannot. -/
theorem Surroundings.read_of_toOption (w : Surroundings) (given : Option Text) (x : Settings)
    (same : (w.read given).toOption = some x) : w.read given = .ok x := by
  cases found : w.read given with
  | ok y =>
    rw [found] at same
    exact congrArg Except.ok (Option.some.inj same)
  | error p =>
    rw [found] at same
    cases same

namespace Cache

/-- The path that a step reads settings from, if it reads any: a get reads only when nothing is
kept, and then as a load without a path. -/
def Step.source? (isKept : Bool) : Step → Option (Option Text)
  | .load given | .reload given => some given
  | .get => if isKept then none else some none
  | _ => none

def Step.forgets : Step → Bool
  | .forget => true
  | _ => false

/-- What a step that took settings answers, when those with the number `last` were shown last. -/
def Step.answer (last : Option Nat) (l : Loaded) : Step → Reply
  | .reload _ => .batch [l.settings.endpoint]
  | _ => .settings l.settings (last == some l.serial)

theorem load_eq (c : Cache) (w : Surroundings) (given : Option Text) :
    c.load w given = (w.read given).map (fun x => (⟨some ⟨c.next, x⟩, c.next + 1⟩, ⟨c.next, x⟩)) := by
  unfold load Surroundings.read
  cases Settings.read w.files (settingsPath given w.configured) <;> rfl

theorem get_kept (c : Cache) (w : Surroundings) (l : Loaded) (kept : c.loaded = some l) :
    c.get w = .ok (c, l) := by
  simp only [get, kept]

theorem get_nothing (c : Cache) (w : Surroundings) (bare : c.loaded = none) :
    c.get w = c.load w none := by
  simp only [get, bare]

namespace Session

/-- The session when it finds other files and another environment. -/
def amid (s : Session) (w : Surroundings) : Session := ⟨w, s.cache, s.last⟩

/-- The session after a history of steps, each with the surroundings that it found. -/
def after (s : Session) : List (Surroundings × Step) → Session
  | [] => s
  | (w, t) :: r => ((s.amid w).step t).1.after r

theorem step_get_nothing (s : Session) (bare : s.cache.loaded = none) :
    s.step .get = s.step (.load none) := by
  simp only [step, s.cache.get_nothing _ bare]

/-- A step that reads fails as the reading fails, and then leaves everything as it was; otherwise
the settings are kept under the next number and answered. -/
theorem step_reads (s : Session) (t : Step) (given : Option Text)
    (reads : t.source? s.cache.loaded.isSome = some given) :
    (∀ x, s.surroundings.read given = .ok x →
      (s.step t).1.cache = ⟨some ⟨s.cache.next, x⟩, s.cache.next + 1⟩ ∧
      (s.step t).2 = .ok (t.answer s.last ⟨s.cache.next, x⟩)) ∧
    ∀ p, s.surroundings.read given = .error p → s.step t = (s, .error p) := by
  have load : ∀ given, (∀ x, s.surroundings.read given = .ok x →
      (s.step (.load given)).1.cache = ⟨some ⟨s.cache.next, x⟩, s.cache.next + 1⟩ ∧
      (s.step (.load given)).2 = .ok (.settings x (s.last == some s.cache.next))) ∧
      ∀ p, s.surroundings.read given = .error p → s.step (.load given) = (s, .error p) := by
    intro given
    constructor
    · intro x hx
      simp only [step, load_eq, hx]
      exact ⟨rfl, rfl⟩
    · intro p hp
      simp only [step, load_eq, hp]
      rfl
  cases t with
  | load given₁ =>
    cases Option.some.inj reads
    exact load given
  | get =>
    cases kept : s.cache.loaded with
    | some l =>
      rw [kept] at reads
      cases reads
    | none =>
      rw [kept] at reads
      cases Option.some.inj reads
      rw [s.step_get_nothing kept]
      exact load none
  | reload given₁ =>
    cases Option.some.inj reads
    constructor
    · intro x hx
      simp only [step, reload, load_eq, hx]
      exact ⟨rfl, rfl⟩
    · intro p hp
      simp only [step, reload, load_eq, hp]
      rfl
  | _ => cases reads

/-- A step that does not read forgets what is kept, or keeps it. -/
theorem step_rests (s : Session) (t : Step) (rests : t.source? s.cache.loaded.isSome = none) :
    (s.step t).1.cache = if t.forgets then s.cache.forget else s.cache := by
  cases t with
  | load | reload => cases rests
  | get =>
    cases kept : s.cache.loaded with
    | none =>
      rw [kept] at rests
      cases rests
    | some l =>
      simp only [step, s.cache.get_kept _ l kept]
      rfl
  | path | forget | write => rfl
  | remove path =>
    simp only [step]
    cases s.surroundings.files.remove path <;> rfl
  | setVariable value =>
    cases value with
    | none => rfl
    | some name =>
      simp only [step, setVariable]
      cases Name.check name <;> rfl

/-- What a step does to what is kept: it takes new settings, it forgets them, or it does neither. -/
def event? (s : Session) (t : Step) : Option (Option Loaded) :=
  match t.source? s.cache.loaded.isSome with
  | some given => (s.surroundings.read given).toOption.map (fun x => some ⟨s.cache.next, x⟩)
  | none => if t.forgets then some none else none

def events (s : Session) : List (Surroundings × Step) → List (Option Loaded)
  | [] => []
  | (w, t) :: r => ((s.amid w).event? t).toList ++ ((s.amid w).step t).1.events r

/-- The cache after an event: settings that were taken have the number that was next. -/
theorem cache_step (s : Session) (t : Step) :
    (s.event? t = none ∧ (s.step t).1.cache = s.cache) ∨
    (s.event? t = some none ∧ (s.step t).1.cache = s.cache.forget) ∨
    ∃ x, s.event? t = some (some ⟨s.cache.next, x⟩) ∧
      (s.step t).1.cache = ⟨some ⟨s.cache.next, x⟩, s.cache.next + 1⟩ := by
  cases source : t.source? s.cache.loaded.isSome with
  | none =>
    have rests := s.step_rests t source
    cases forgets : t.forgets with
    | false =>
      rw [forgets] at rests
      exact Or.inl ⟨by simp [event?, source, forgets], rests⟩
    | true =>
      rw [forgets] at rests
      exact Or.inr (Or.inl ⟨by simp [event?, source, forgets], rests⟩)
  | some given =>
    obtain ⟨succeeds, fails⟩ := s.step_reads t given source
    cases held : s.surroundings.read given with
    | error p =>
      refine Or.inl ⟨by simp [event?, source, held, Except.toOption], ?_⟩
      rw [fails p held]
    | ok x =>
      refine Or.inr (Or.inr ⟨x, by simp [event?, source, held, Except.toOption], ?_⟩)
      exact (succeeds x held).1

theorem loaded_step (s : Session) (t : Step) :
    (s.step t).1.cache.loaded = (s.event? t).getD s.cache.loaded := by
  rcases s.cache_step t with ⟨event, cache⟩ | ⟨event, cache⟩ | ⟨x, event, cache⟩ <;>
    rw [event, cache] <;> rfl

theorem loaded_after (s : Session) (history : List (Surroundings × Step)) :
    (s.after history).cache.loaded = (s.events history).getLastD s.cache.loaded := by
  induction history generalizing s with
  | nil => rfl
  | cons a r ih =>
    obtain ⟨w, t⟩ := a
    have kept := (s.amid w).loaded_step t
    rw [after, ih, events, kept]
    cases (s.amid w).event? t with
    | none => rfl
    | some e => simp only [Option.toList_some, List.singleton_append, List.getLastD_cons, Option.getD_some]

/-- The settings that a history took, in their order. -/
def taken (s : Session) (history : List (Surroundings × Step)) : List Loaded :=
  (s.events history).filterMap id

theorem taken_cons (s : Session) (w : Surroundings) (t : Step) (r : List (Surroundings × Step)) :
    (s.taken ((w, t) :: r) = ((s.amid w).step t).1.taken r ∧
      ((s.amid w).step t).1.cache.next = s.cache.next) ∨
    ∃ x, s.taken ((w, t) :: r) = ⟨s.cache.next, x⟩ :: ((s.amid w).step t).1.taken r ∧
      ((s.amid w).step t).1.cache.next = s.cache.next + 1 := by
  rcases (s.amid w).cache_step t with ⟨event, cache⟩ | ⟨event, cache⟩ | ⟨x, event, cache⟩
  · exact Or.inl ⟨by simp [taken, events, event], by rw [cache]; rfl⟩
  · exact Or.inl ⟨by simp [taken, events, event], by rw [cache]; rfl⟩
  · refine Or.inr ⟨x, ?_, congrArg Cache.next cache⟩
    simp only [taken, events, event]
    rfl

theorem le_taken (s : Session) (history : List (Surroundings × Step)) (l : Loaded)
    (h : l ∈ s.taken history) : s.cache.next ≤ l.serial := by
  induction history generalizing s with
  | nil => cases h
  | cons a r ih =>
    rcases s.taken_cons a.1 a.2 r with ⟨same, next⟩ | ⟨x, more, next⟩
    · rw [same] at h
      exact next ▸ ih _ h
    · rw [more] at h
      rcases List.mem_cons.mp h with rfl | later
      · exact Nat.le_refl _
      · have le := ih _ later
        omega

theorem nodup_taken (s : Session) (history : List (Surroundings × Step)) :
    ((s.taken history).map Loaded.serial).Nodup := by
  induction history generalizing s with
  | nil => exact List.nodup_nil
  | cons a r ih =>
    rcases s.taken_cons a.1 a.2 r with ⟨same, _⟩ | ⟨x, more, next⟩
    · rw [same]
      exact ih _
    · rw [more, List.map_cons, List.nodup_cons]
      -- Whatever is taken later has a number above this one.
      refine ⟨fun again => ?_, ih _⟩
      obtain ⟨l, later, number⟩ := List.mem_map.mp again
      have le := le_taken _ r l later
      have number : l.serial = s.cache.next := number
      omega

theorem step_failed (s : Session) (t : Step) (p : Problem) (failed : (s.step t).2 = .error p) :
    (s.step t).1.cache = s.cache := by
  cases source : t.source? s.cache.loaded.isSome with
  | some given =>
    obtain ⟨succeeds, fails⟩ := s.step_reads t given source
    cases held : s.surroundings.read given with
    | error q => rw [fails q held]
    | ok x =>
      rw [(succeeds x held).2] at failed
      cases failed
  | none =>
    rw [s.step_rests t source]
    cases t with
    | forget => cases failed
    | _ => rfl

theorem step_get_kept (s : Session) (l : Loaded) (kept : s.cache.loaded = some l) :
    s.step .get = (⟨s.surroundings, s.cache, some l.serial⟩,
      .ok (.settings l.settings (s.last == some l.serial))) := by
  simp only [step, s.cache.get_kept _ l kept]
  rfl

theorem step_get_failed (s : Session) (p : Problem) (failed : (s.step .get).2 = .error p) :
    (s.step .get).1 = s ∧ s.cache.loaded = none := by
  cases kept : s.cache.loaded with
  | some l =>
    rw [s.step_get_kept l kept] at failed
    cases failed
  | none =>
    have source : Step.get.source? s.cache.loaded.isSome = some none := by rw [kept]; rfl
    obtain ⟨succeeds, fails⟩ := s.step_reads .get none source
    cases held : s.surroundings.read none with
    | error q => exact ⟨by rw [fails q held], rfl⟩
    | ok x =>
      rw [(succeeds x held).2] at failed
      cases failed

/-- After any history the cache keeps what was taken last, unless that was forgotten since; and no
two takings are of one number. A step that reads takes what the file at its path holds then,
or fails as the reading fails. A step that fails leaves the cache as it was. A get answers
what is kept, whatever the files hold by then; with nothing kept it is a load without a
path, and after a failure the next one is again. -/
theorem kept_until_forgotten (w₀ : Surroundings) (history : List (Surroundings × Step)) :
    let s := (start w₀).after history
    let events := (start w₀).events history
    s.cache.loaded = events.getLastD none ∧
    ((events.filterMap id).map Loaded.serial).Nodup ∧
    (∀ w t given, t.source? s.cache.loaded.isSome = some given →
      (∀ x, w.read given = .ok x → (s.amid w).event? t = some (some ⟨s.cache.next, x⟩) ∧
        ((s.amid w).step t).2 = .ok (t.answer s.last ⟨s.cache.next, x⟩)) ∧
      ∀ p, w.read given = .error p → (s.amid w).step t = (s.amid w, .error p)) ∧
    (∀ w t p, ((s.amid w).step t).2 = .error p → ((s.amid w).step t).1.cache = s.cache) ∧
    (∀ l, s.cache.loaded = some l → ∀ w, (s.amid w).step .get =
      (⟨w, s.cache, some l.serial⟩, .ok (.settings l.settings (s.last == some l.serial)))) ∧
    (s.cache.loaded = none → ∀ w, (s.amid w).step .get = (s.amid w).step (.load none) ∧
      ∀ p, ((s.amid w).step .get).2 = .error p → ∀ w₁,
        (((s.amid w).step .get).1.amid w₁).step .get = (s.amid w₁).step (.load none)) := by
  intro s events
  refine ⟨loaded_after (start w₀) history, nodup_taken (start w₀) history, ?_, ?_, ?_, ?_⟩
  · intro w t given reads
    obtain ⟨succeeds, fails⟩ := (s.amid w).step_reads t given reads
    refine ⟨fun x held => ⟨?_, (succeeds x held).2⟩, fails⟩
    have reads : t.source? (s.amid w).cache.loaded.isSome = some given := reads
    have held : (s.amid w).surroundings.read given = .ok x := held
    simp only [event?, reads, held]
    rfl
  · exact fun w t p failed => (s.amid w).step_failed t p failed
  · exact fun l kept w => (s.amid w).step_get_kept l kept
  · intro bare w
    refine ⟨(s.amid w).step_get_nothing bare, fun p failed w₁ => ?_⟩
    rw [((s.amid w).step_get_failed p failed).1]
    exact (s.amid w₁).step_get_nothing bare

/-- A directory stands where the settings file should be, goes away, and is back again. -/
theorem default_kept_behind_directory :
    let blocked : Surroundings := ⟨⟨[], [["config"], ["config", "settings.yaml"]]⟩, none⟩
    let empty : Surroundings := ⟨.empty, none⟩
    let s := (start blocked).after [(blocked, .get), (empty, .load none), (blocked, .reload none)]
    s.cache.loaded = some ⟨0, .default⟩ ∧
      (s.amid blocked).step .get =
        (⟨blocked, s.cache, some 0⟩, .ok (.settings .default true)) ∧
      ∃ p, blocked.read none = .error p ∧
        (s.amid blocked).step (.load none) = (s.amid blocked, .error p) := by
  intro blocked empty s
  have kept : s.cache.loaded = some ⟨0, .default⟩ := by rfl
  obtain ⟨_, _, reads, _, answers, _⟩ := kept_until_forgotten blocked
    [(blocked, .get), (empty, .load none), (blocked, .reload none)]
  refine ⟨kept, answers _ kept blocked, _, rfl, ?_⟩
  exact (reads blocked (.load none) none rfl).2 _ rfl

end Session
end Cache
end AlertRelay
