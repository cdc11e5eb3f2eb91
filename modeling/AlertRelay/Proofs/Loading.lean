import AlertRelay.Proofs.Retention
import AlertRelay.Proofs.Walks

/-! The one path that settings are loaded from. What stands there decides what is loaded, whatever stands
anywhere else, unless the system finds the path too long to look at. -/
namespace AlertRelay

/-- No text, or an empty one. -/
def IsUnnamed (o : Option Text) : Prop := ∀ t, o = some t → t.isEmpty = true

/-- The text of the path that is looked at: the one that is given, else the one that is configured, else
the usual one. -/
inductive Sought : Option Text → Option Text → Text → Prop
  | given (t : Text) (configured : Option Text) (named : t.isEmpty = false) : Sought (some t) configured t
  | configured (given : Option Text) (t : Text) (unnamed : IsUnnamed given) (named : t.isEmpty = false) :
      Sought given (some t) t
  | usual (given configured : Option Text) (unnamed : IsUnnamed given) (unset : IsUnnamed configured) :
      Sought given configured usualPath

theorem unnamed_or_named (o : Option Text) : IsUnnamed o ∨ ∃ t, o = some t ∧ t.isEmpty = false := by
  cases o with
  | none => exact Or.inl nofun
  | some t =>
    cases named : t.isEmpty with
    | true => exact Or.inl (fun s same => Option.some.inj same ▸ named)
    | false => exact Or.inr ⟨t, rfl, named⟩

theorem exists_sought (given configured : Option Text) : ∃ t, Sought given configured t := by
  rcases unnamed_or_named given with unnamed | ⟨t, rfl, named⟩
  · rcases unnamed_or_named configured with unset | ⟨t, rfl, named⟩
    · exact ⟨usualPath, .usual given configured unnamed unset⟩
    · exact ⟨t, .configured given t unnamed named⟩
  · exact ⟨t, .given t configured named⟩

theorem filter_unnamed (o : Option Text) (unnamed : IsUnnamed o) : o.filter (fun s => !s.isEmpty) = none := by
  cases o with
  | none => rfl
  | some t => simp [unnamed t rfl]

theorem filter_named (t : Text) (named : t.isEmpty = false) :
    (some t).filter (fun s => !s.isEmpty) = some t := by
  rw [Option.filter, named]
  rfl

theorem settingsPath_sought {given configured : Option Text} {t : Text} (sought : Sought given configured t) :
    settingsPath given configured = .ofText t := by
  cases sought with
  | given t configured named => simp only [settingsPath, filter_named t named]; rfl
  | configured given t unnamed named =>
    simp only [settingsPath, filter_unnamed given unnamed, filter_named t named]
    rfl
  | usual given configured unnamed unset =>
    simp only [settingsPath, filter_unnamed given unnamed, filter_unnamed configured unset]
    rfl

/-- The text of the path that is looked at stands for the same path again, whatever is configured. -/
theorem settingsPath_text (given configured configured₁ : Option Text) :
    settingsPath (some (settingsPath given configured).text) configured₁ = settingsPath given configured := by
  obtain ⟨t, sought⟩ := exists_sought given configured
  have plain := Path.isPlain_ofText t
  rw [settingsPath_sought sought, settingsPath_sought (.given _ configured₁ (Path.isEmpty_text _ plain)),
    Path.ofText_text _ plain]

namespace Cache

/-- What a load answers that took settings, with the cache that keeps them. -/
def keeping (c : Cache) (x : Settings) : Cache × Loaded := (⟨some ⟨c.next, x⟩, c.next + 1⟩, ⟨c.next, x⟩)

theorem load_of_read (c : Cache) (w v : Surroundings) (given given₁ : Option Text)
    (same : w.read given = v.read given₁) : c.load w given = c.load v given₁ := by
  rw [load_eq, load_eq, same]

section
variable (c : Cache) (w : Surroundings) (given : Option Text)

theorem load_overlong (refused : w.files.Overlong (settingsPath given w.configured).text) :
    c.load w given = .error (.file ⟨.nameTooLong, (settingsPath given w.configured).text⟩) := by
  rw [load_eq, Surroundings.read, Settings.read, w.files.read_overlong _ refused]
  rfl

theorem load_nothing (nothing : w.files.standing (settingsPath given w.configured).text = none)
    (asked : ¬ w.files.Overlong (settingsPath given w.configured).text) :
    c.load w given = .ok (c.keeping .default) := by
  rw [load_eq, Surroundings.read, Settings.read, w.files.read_nothing _ nothing asked]
  rfl

theorem load_standing (files : Files)
    (same : w.files.standing (settingsPath given w.configured).text =
      files.standing (settingsPath given w.configured).text)
    (stands : w.files.standing (settingsPath given w.configured).text ≠ none) :
    c.load w given = c.load ⟨files, w.configured⟩ given := by
  refine c.load_of_read _ _ _ _ ?_
  rw [Surroundings.read, Settings.read, w.files.read_standing files _ same stands]
  rfl

end

theorem defaults_loaded_iff (f : Files) (given configured : Option Text)
    (nothing : f.standing (settingsPath given configured).text = none) :
    (∀ c : Cache, c.load ⟨f, configured⟩ given = .ok (c.keeping .default)) ↔
      ¬ f.Overlong (settingsPath given configured).text := by
  constructor
  · intro loads refused
    cases (start.load_overlong ⟨f, configured⟩ given refused).symm.trans (loads start)
  · exact fun asked c => c.load_nothing ⟨f, configured⟩ given nothing asked

theorem loads_alike_iff (f g : Files) (given configured : Option Text)
    (same : f.standing (settingsPath given configured).text =
      g.standing (settingsPath given configured).text) :
    (∀ c : Cache, c.load ⟨f, configured⟩ given = c.load ⟨g, configured⟩ given) ↔
      (f.Overlong (settingsPath given configured).text ↔ g.Overlong (settingsPath given configured).text) := by
  by_cases nothing : f.standing (settingsPath given configured).text = none
  · have defaults := defaults_loaded_iff f given configured nothing
    have defaults₁ := defaults_loaded_iff g given configured (same ▸ nothing)
    constructor
    · intro loads
      rw [← not_iff_not, ← defaults, ← defaults₁]
      exact forall_congr' (fun c => by rw [loads c])
    · intro alike c
      by_cases refused : f.Overlong (settingsPath given configured).text
      · rw [c.load_overlong ⟨f, configured⟩ given refused,
          c.load_overlong ⟨g, configured⟩ given (alike.mp refused)]
      · rw [defaults.mpr refused c, defaults₁.mpr (fun h => refused (alike.mpr h)) c]
  · have asked := fun refused => nothing (f.nothing_overlong _ refused)
    have asked₁ := fun refused => nothing (same.trans (g.nothing_overlong _ refused))
    exact iff_of_true (fun c => c.load_standing ⟨f, configured⟩ given g same nothing)
      (iff_of_false asked asked₁)

/-- The path that is looked at is the plain form of the text that counts, and it leads wherever that text
leads. Files that hold the same there load the same settings, or fail to load in the same way, exactly if
the system finds the path too long in both or in neither. Where nothing stands, the defaults are
loaded exactly if it is not too long, and otherwise that is the fault. A path that is short in all its
parts is never too long. The text of the path, given in its turn, stands for the same path
and loads the same, whatever is configured by then. -/
theorem loads_from_one_path (given configured : Option Text) :
    let p := (settingsPath given configured).text
    (∃ t, Sought given configured t) ∧
    (∀ t, Sought given configured t → settingsPath given configured = .ofText t ∧
      ∀ (f : Files) (x : Found), f.find t = .ok x → f.find p = .ok x) ∧
    (∀ f g : Files, f.standing p = g.standing p →
      ((∀ c : Cache, c.load ⟨f, configured⟩ given = c.load ⟨g, configured⟩ given) ↔
        (f.Overlong p ↔ g.Overlong p))) ∧
    (∀ f : Files, f.standing p = none →
      ((∀ c : Cache, c.load ⟨f, configured⟩ given = .ok (c.keeping .default)) ↔ ¬ f.Overlong p)) ∧
    (∀ f : Files, f.Overlong p → f.standing p = none ∧
      ∀ c : Cache, c.load ⟨f, configured⟩ given = .error (.file ⟨.nameTooLong, p⟩)) ∧
    (Files.IsShort p → ∀ f : Files, ¬ f.Overlong p) ∧
    ∀ configured₁, settingsPath (some p) configured₁ = settingsPath given configured ∧
      ∀ (c : Cache) (f : Files), c.load ⟨f, configured₁⟩ (some p) = c.load ⟨f, configured⟩ given := by
  intro p
  refine ⟨exists_sought given configured, fun t sought => ?_,
    fun f g same => loads_alike_iff f g given configured same,
    fun f nothing => defaults_loaded_iff f given configured nothing, fun f refused => ?_,
    fun short f => f.not_overlong_of_short p short, fun configured₁ => ?_⟩
  · have path := settingsPath_sought sought
    refine ⟨path, fun f x found => ?_⟩
    rw [show p = _ from congrArg Path.text path]
    exact f.find_ofText t x found
  · exact ⟨f.nothing_overlong p refused, fun c => c.load_overlong ⟨f, configured⟩ given refused⟩
  · have same := settingsPath_text given configured configured₁
    refine ⟨same, fun c f => c.load_of_read _ _ _ _ ?_⟩
    rw [Surroundings.read, Surroundings.read, same]

/-- A file by an untidy path, beside others that hold what is no settings; the same path where nothing stands,
with files at the next two that could be looked at; and a name that is too long. -/
theorem missing_file_not_replaced :
    let octets (t : Text) : List UInt8 := t.codes.map UInt8.ofNat
    let path : Text := "./conf//am.yaml"
    let f := Files.empty.withFile ["conf", "am.yaml"] (octets "alertmanager:\n  room: ops\n")
    let g := (f.withFile ["other.yaml"] [255]).withFile ["conf", "spare.yaml"] [7]
    let others := (Files.empty.withFile ["other.yaml"] [255]).withFile ["config", "settings.yaml"] [7]
    let configured : Option Text := some "other.yaml"
    let name : Text := ⟨List.replicate 256 0x78⟩
    (settingsPath (some path) configured).text = "conf/am.yaml" ∧
      f.find "conf/am.yaml" = .ok (.file (octets "alertmanager:\n  room: ops\n")) ∧
      start.load ⟨f, configured⟩ (some path) = start.load ⟨g, configured⟩ (some path) ∧
      start.load ⟨others, configured⟩ (some path) = .ok (start.keeping .default) ∧
      start.load ⟨g, none⟩ (some "conf/am.yaml") = start.load ⟨g, configured⟩ (some path) ∧
      start.load ⟨others, none⟩ (some name) = .error (.file ⟨.nameTooLong, name⟩) := by
  intro octets path f g others configured name
  have plain : (settingsPath (some path) configured).text = "conf/am.yaml" := by decide +kernel
  have whole : (settingsPath (some name) none).text = name := by decide +kernel
  obtain ⟨_, sought, alike, nothing, _, short, again⟩ := loads_from_one_path (some path) configured
  obtain ⟨_, _, _, _, long, _⟩ := loads_from_one_path (some name) none
  rw [plain] at sought alike nothing short again
  rw [whole] at long
  have asked := short (by decide +kernel)
  refine ⟨plain, ?_, ?_, ?_, ?_, ?_⟩
  · exact (sought path (.given path configured rfl)).2 f _ (by decide +kernel)
  · exact (alike f g (by decide +kernel)).mpr (iff_of_false (asked f) (asked g)) start
  · exact (nothing others (by decide +kernel)).mpr (asked others) start
  · exact (again none).2 start g
  · exact (long others (by decide +kernel)).2 start

/-- A file that is missing behind a long name is a fault, and not the defaults; and behind a directory it is
a fault only if that directory exists. -/
theorem long_name_refused :
    let name : Text := ⟨List.replicate 256 0x78⟩
    let p : Text := "a/" ++ name
    let empty : Surroundings := ⟨.empty, none⟩
    let more : Surroundings := ⟨⟨[], [["a"]]⟩, none⟩
    empty.files.standing name = none ∧
      start.load empty (some name) = .error (.file ⟨.nameTooLong, name⟩) ∧
      (settingsPath (some p) none).text = p ∧ empty.files.standing p = more.files.standing p ∧
      start.load empty (some p) = .ok (start.keeping .default) ∧
      start.load more (some p) = .error (.file ⟨.nameTooLong, p⟩) := by
  intro name p empty more
  have whole : (settingsPath (some name) none).text = name := by decide +kernel
  have whole₁ : (settingsPath (some p) none).text = p := by decide +kernel
  have alike : empty.files.standing p = none ∧ more.files.standing p = none := by decide +kernel
  have refused : empty.files.Overlong (settingsPath (some name) none).text := by decide +kernel
  have nothing : empty.files.standing (settingsPath (some p) none).text = none := by decide +kernel
  have asked : ¬ empty.files.Overlong (settingsPath (some p) none).text := by decide +kernel
  have refused₁ : more.files.Overlong (settingsPath (some p) none).text := by decide +kernel
  refine ⟨by decide +kernel, ?_, whole₁, alike.1.trans alike.2.symm, ?_, ?_⟩
  · rw [start.load_overlong empty (some name) refused, whole]
  · exact start.load_nothing empty (some p) nothing asked
  · rw [start.load_overlong more (some p) refused₁, whole₁]

end Cache
end AlertRelay
