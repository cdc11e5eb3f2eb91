import AlertRelay.Log.Session

/-! Setting the log up by the name of a level. A name stands for its level in any case of letters, and a
name that stands for none is as good as the usual one, but for two that the host's log has for
other things: those are refused, when the new handler is in place already. Once it was set up the
log has one handler for good, and only another call changes its levels. -/
namespace AlertRelay.Log

/-- An argument that is a text, which may be empty, or is left out. -/
def argument (o : Option Text) : Value := (o.map Value.text).getD .null

/-- The argument if it says anything, and what is configured otherwise. -/
def chosen (o : Option Text) (configured : Text) : Text :=
  (o.filter (fun t => !t.isEmpty)).getD configured

/-- The level that a name stands for in capitals, and the usual one where it stands for none. -/
def levelOf (name : Text) : Int := (Fields.get? (upper name) levels).getD usual

/-- What the host's log has under names in capitals beside its levels. -/
def otherNames : List Text := ["BASIC_FORMAT", "_STYLES"]

theorem given_argument (o : Option Text) (configured : Text) :
    Setup.given (argument o) configured = .text (chosen o configured) := by
  cases o with
  | none => rfl
  | some t =>
    cases empty : t.isEmpty with
    | true => simp [Setup.given, argument, chosen, Value.isTruthy, Option.filter, empty]
    | false => simp [Setup.given, argument, chosen, Value.isTruthy, Option.filter, empty]

theorem threshold_level (name : Text) (level : upper name ∉ otherNames) :
    threshold name = .ok (levelOf name) := by
  simp only [otherNames, List.mem_cons, List.not_mem_nil, or_false, not_or] at level
  simp only [threshold, levelOf]
  cases Fields.get? (upper name) levels with
  | some n => rfl
  | none =>
    simp only [level.1, level.2, if_false]
    rfl

theorem threshold_other (name : Text) (other : upper name ∈ otherNames) :
    ∃ m, threshold name = .error m := by
  unfold threshold
  simp only [otherNames, List.mem_cons, List.not_mem_nil, or_false] at other
  rcases other with same | same
  · rw [same]
    exact ⟨_, rfl⟩
  · rw [same]
    exact ⟨_, rfl⟩

theorem setUp_level (s : Setup) (c : LogSettings) (level format : Option Text)
    (known : upper (chosen level c.level) ∉ otherNames) :
    s.setUp c (argument level) (argument format) =
      (⟨some (Format.ofName (chosen format c.format)), levelOf (chosen level c.level),
        max (levelOf (chosen level c.level)) usual, max (levelOf (chosen level c.level)) usual, true⟩, .ok ()) := by
  simp only [Setup.setUp, given_argument, threshold_level _ known]

theorem setUp_other (s : Setup) (c : LogSettings) (level format : Option Text)
    (other : upper (chosen level c.level) ∈ otherNames) :
    ∃ m, s.setUp c (argument level) (argument format) =
      (⟨some (Format.ofName (chosen format c.format)), s.root, s.http, s.loop, s.isService⟩, .error (.misuse m)) := by
  obtain ⟨m, refused⟩ := threshold_other _ other
  exact ⟨m, by simp only [Setup.setUp, given_argument, refused]⟩

theorem setUp_format (s : Setup) (c : LogSettings) (level format : Option Text) :
    (s.setUp c (argument level) (argument format)).1.handler = some (Format.ofName (chosen format c.format)) := by
  simp only [Setup.setUp, given_argument]
  cases threshold (chosen level c.level) <;> rfl

theorem setUp_handler (s : Setup) (c : LogSettings) (level format : Value)
    (there : s.handler.isSome = true) : (s.setUp c level format).1.handler.isSome = true := by
  unfold Setup.setUp
  split
  next name _ =>
    dsimp only
    cases threshold name <;> rfl
  next => exact there

def Step.isSetUp : Step → Bool
  | .setUp _ _ => true
  | _ => false

namespace Session

def after (s : Session) : List Step → Session
  | [] => s
  | t :: r => (s.step t).1.after r

theorem setup_step (s : Session) (t : Step) (other : t.isSetUp = false) : (s.step t).1.setup = s.setup := by
  cases t with
  | setUp => cases other
  | entry logger e =>
    simp only [step]
    cases refuse s.setup e <;> rfl
  | foreign => rfl
  | report message error context =>
    simp only [step]
    cases Sink.root.bind context with
    | error m => rfl
    | ok sink => cases error <;> rfl
  | update data =>
    simp only [step]
    cases Endpoint.check data <;> rfl
  | load path =>
    simp only [step]
    cases s.cache.load s.surroundings path <;> rfl

theorem handler_step (s : Session) (t : Step) (there : s.setup.handler.isSome = true) :
    (s.step t).1.setup.handler.isSome = true := by
  cases kind : t.isSetUp with
  | false =>
    rw [s.setup_step t kind]
    exact there
  | true =>
    cases t with
    | setUp level format =>
      simp only [step]
      cases s.cache.get s.surroundings with
      | error p => exact there
      | ok found => exact setUp_handler s.setup _ level format there
    | _ => cases kind

theorem handlers_after (s : Session) (later : List Step) (there : s.setup.handler.isSome = true) :
    (s.after later).setup.handlers = 1 := by
  induction later generalizing s with
  | nil => simp only [after, Setup.handlers, there, if_true]
  | cons t r ih => exact ih _ (s.handler_step t there)

theorem setup_after (s : Session) (later : List Step) (other : ∀ t ∈ later, t.isSetUp = false) :
    (s.after later).setup = s.setup := by
  induction later generalizing s with
  | nil => rfl
  | cons t r ih =>
    have rest := ih (s.step t).1 (fun x member => other x (List.mem_cons_of_mem t member))
    exact rest.trans (s.setup_step t (other t List.mem_cons_self))

theorem step_setUp (s : Session) (level format : Value) (c : Cache) (l : Loaded)
    (loaded : s.cache.get s.surroundings = .ok (c, l)) :
    (s.step (.setUp level format)).1.setup = (s.setup.setUp l.settings.log level format).1 ∧
    (s.step (.setUp level format)).2.result = (s.setup.setUp l.settings.log level format).2 := by
  constructor
  · simp only [step, loaded]
  · simp only [step, loaded]

/-- With settings at hand the log is set up exactly if the name that counts stands for nothing else in
the host's log. Its level is then that of the name, and the loggers of the libraries show nothing
below the usual one. A call that is refused leaves the levels as they were. Either way the one
handler is that of the call, there is one for good, and the setup stays until the next call. -/
theorem set_up_iff (s : Session) (level format : Option Text) (c : Cache) (l : Loaded)
    (loaded : s.cache.get s.surroundings = .ok (c, l)) :
    let name := chosen level l.settings.log.level
    let o := s.step (.setUp (argument level) (argument format))
    (o.2.result = .ok () ↔ upper name ∉ otherNames) ∧
    (o.2.result = .ok () → o.1.setup.root = levelOf name ∧
      o.1.setup.http = max (levelOf name) usual ∧ o.1.setup.loop = max (levelOf name) usual) ∧
    (o.2.result ≠ .ok () → o.1.setup.root = s.setup.root ∧
      o.1.setup.http = s.setup.http ∧ o.1.setup.loop = s.setup.loop) ∧
    o.1.setup.handler = some (Format.ofName (chosen format l.settings.log.format)) ∧
    ∀ later, (o.1.after later).setup.handlers = 1 ∧
      ((∀ t ∈ later, t.isSetUp = false) → (o.1.after later).setup = o.1.setup) := by
  intro name o
  obtain ⟨setup, result⟩ := s.step_setUp (argument level) (argument format) c l loaded
  have handler : o.1.setup.handler = some (Format.ofName (chosen format l.settings.log.format)) := by
    rw [setup]
    exact setUp_format s.setup l.settings.log level format
  have lasting (later : List Step) : (o.1.after later).setup.handlers = 1 ∧
      ((∀ t ∈ later, t.isSetUp = false) → (o.1.after later).setup = o.1.setup) := by
    constructor
    · exact handlers_after o.1 later (congrArg Option.isSome handler)
    · exact setup_after o.1 later
  by_cases other : upper name ∈ otherNames
  · obtain ⟨m, done⟩ := setUp_other s.setup l.settings.log level format other
    rw [done] at setup result
    have refused : o.2.result ≠ .ok () := by
      intro passed
      cases result.symm.trans passed
    have unmoved : o.1.setup.root = s.setup.root ∧ o.1.setup.http = s.setup.http ∧
        o.1.setup.loop = s.setup.loop := by
      rw [setup]
      exact ⟨rfl, rfl, rfl⟩
    exact ⟨iff_of_false refused (not_not_intro other), fun passed => absurd passed refused, fun _ => unmoved,
      handler, lasting⟩
  · have done := setUp_level s.setup l.settings.log level format other
    rw [done] at setup result
    have moved : o.1.setup.root = levelOf name ∧ o.1.setup.http = max (levelOf name) usual ∧
        o.1.setup.loop = max (levelOf name) usual := by
      rw [setup]
      exact ⟨rfl, rfl, rfl⟩
    exact ⟨iff_of_true result other, fun _ => moved, fun refused => absurd result refused, handler, lasting⟩

/-- An empty argument leaves the name to the settings; the libraries stay above the level. -/
theorem configured_level_set :
    let w : Surroundings := ⟨.empty, none⟩
    let x : Settings := ⟨.default, ⟨"dEbug", "console"⟩⟩
    let s : Session := ⟨w, ⟨some ⟨0, x⟩, 1⟩, .initial⟩
    let o := s.step (.setUp (.text "") .null)
    s.cache.get s.surroundings = .ok (s.cache, ⟨0, x⟩) ∧ o.2.result = .ok () ∧ o.1.setup.root = 10 ∧
      o.1.setup.http = 20 ∧ o.1.setup.loop = 20 ∧ o.1.setup.handler = some .console ∧
      (o.1.after [.setUp (.text "_styles") .null, .load none]).setup.handlers = 1 := by
  intro w x s o
  obtain ⟨passes, sets, _, handler, lasting⟩ := set_up_iff s (some "") none s.cache ⟨0, x⟩ rfl
  have passed : o.2.result = .ok () := passes.mpr (by decide)
  obtain ⟨root, http, loop⟩ := sets passed
  exact ⟨rfl, passed, root, http, loop, handler, (lasting _).1⟩

/-- The name of the usual format is no level, and it is refused. -/
theorem format_name_refused :
    let s := Session.start ⟨.empty, none⟩
    let o := s.step (.setUp (.text "basic_format") .null)
    s.cache.get s.surroundings = .ok (⟨some ⟨0, .default⟩, 1⟩, ⟨0, .default⟩) ∧
      o.2.result = .error (.misuse (.unknownLevel basicFormat)) ∧ o.1.setup.root ≠ 20 ∧
      o.1.setup.handlers = 1 := by
  intro s o
  exact ⟨rfl, rfl, by decide, rfl⟩

end Session
end AlertRelay.Log
