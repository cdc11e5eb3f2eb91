import AlertRelay.Proofs.Retention
import AlertRelay.Proofs.Snapshots

/-! A reload and the update that follows it go together. What a reload answers is a batch that no
update refuses, so a host that renews its cell from a file holds the very endpoint of the settings
that are kept, or a file that cannot be read leaves both as they were. -/
namespace AlertRelay

/-- The endpoint of loaded settings. It is known by their number. -/
def Loaded.issued (l : Loaded) : Issued := ⟨l.serial, l.settings.endpoint⟩

/-- What a host works with: the settings that are kept for all, and a cell of its own. -/
structure Host where
  cache : Cache
  cell : Live.Cell

namespace Host

/-- Reloads settings, and updates the cell with the batch that this answers. -/
def renew (h : Host) (w : Surroundings) (path : Option Text) : Host × Live.Answer :=
  match h.cache.reload w path with
  | .ok (cache, b) => (⟨cache, (h.cell.move (.update b)).1⟩, (h.cell.move (.update b)).2)
  | .error p => (h, ⟨.error p, []⟩)

inductive Act
  | renew (path : Option Text)
  | load (path : Option Text)
  | get
  | forget
  | move (m : Live.Move)

def act (h : Host) (w : Surroundings) : Act → Host
  | .renew path => (h.renew w path).1
  | .load path => match h.cache.load w path with
    | .ok (cache, _) => ⟨cache, h.cell⟩
    | .error _ => h
  | .get => match h.cache.get w with
    | .ok (cache, _) => ⟨cache, h.cell⟩
    | .error _ => h
  | .forget => ⟨h.cache.forget, h.cell⟩
  | .move m => ⟨h.cache, (h.cell.move m).1⟩

/-- The host after some acts, each with the surroundings that it found. -/
def after (h : Host) : List (Surroundings × Act) → Host
  | [] => h
  | (w, a) :: r => (h.act w a).after r

/-- The endpoint in force is that of the settings that are kept. -/
def Together (h : Host) : Prop := ∃ l, h.cache.loaded = some l ∧ h.cell.live.current = l.issued

/-- Neither puts settings into the cache past the cell nor an endpoint into the cell past the cache. -/
def Act.IsJoint : Act → Prop
  | .renew _ | .get => True
  | .load _ | .forget => False
  | .move m => m.given? = none

theorem reload_eq (c : Cache) (w : Surroundings) (path : Option Text) :
    c.reload w path = (w.read path).map (fun x =>
      (⟨some ⟨c.next, x⟩, c.next + 1⟩, .members [.endpoint (Loaded.issued ⟨c.next, x⟩)])) := by
  unfold Cache.reload
  rw [Cache.load_eq]
  cases w.read path <;> rfl

theorem renew_read (h : Host) (w : Surroundings) (path : Option Text) (x : Settings)
    (read : w.read path = .ok x) :
    h.renew w path = (⟨⟨some ⟨h.cache.next, x⟩, h.cache.next + 1⟩,
      ⟨⟨Loaded.issued ⟨h.cache.next, x⟩⟩, h.cell.snapshots⟩⟩,
      ⟨.ok (.current x.endpoint), [Live.updated x.endpoint]⟩) := by
  have loaded := reload_eq h.cache w path
  rw [read] at loaded
  unfold renew
  rw [loaded]
  dsimp only [Except.map]
  rw [Live.Cell.move_accepted]
  rfl

theorem renew_unread (h : Host) (w : Surroundings) (path : Option Text) (p : Problem)
    (unread : w.read path = .error p) : h.renew w path = (h, ⟨.error p, []⟩) := by
  have failed := reload_eq h.cache w path
  rw [unread] at failed
  unfold renew
  rw [failed]
  rfl

theorem together_renew (h : Host) (w : Surroundings) (path : Option Text) (x : Settings)
    (read : w.read path = .ok x) : (h.renew w path).1.Together := by
  rw [h.renew_read w path x read]
  exact ⟨⟨h.cache.next, x⟩, rfl, rfl⟩

theorem together_act (h : Host) (w : Surroundings) (a : Act) (joint : a.IsJoint)
    (together : h.Together) : (h.act w a).Together := by
  obtain ⟨l, kept, current⟩ := together
  cases a with
  | renew path =>
    cases read : w.read path with
    | ok x => exact h.together_renew w path x read
    | error p =>
      simp only [act, h.renew_unread w path p read]
      exact ⟨l, kept, current⟩
  | get =>
    simp only [act, h.cache.get_kept w l kept]
    exact ⟨l, kept, current⟩
  | move m =>
    have given : m.given? = none := joint
    have same : (h.cell.move m).1.live.current = h.cell.live.current := by
      rw [Live.Cell.current_move, given, Option.getD_none]
    exact ⟨l, kept, same.trans current⟩
  | load | forget => cases joint

theorem together_after (h : Host) (acts : List (Surroundings × Act))
    (joint : ∀ a ∈ acts, a.2.IsJoint) (together : h.Together) : (h.after acts).Together := by
  induction acts generalizing h with
  | nil => exact together
  | cons a r ih =>
    have head : (h.act a.1 a.2).Together := h.together_act a.1 a.2 (joint a (by simp)) together
    exact ih _ (fun b member => joint b (by simp [member])) head

/-- Whatever the cache and the cell hold, a reload that returns answers a batch of one endpoint; the
cell takes it and logs that once; and then the endpoint in force is the one of the settings
that a get answers, in any surroundings. It stays so while the host does not load, store or
forget past the other. A reload that fails, as the reading of the file fails, leaves both. -/
theorem renewed_together (h : Host) (w : Surroundings) (path : Option Text) :
    (∀ cache b, h.cache.reload w path = .ok (cache, b) → ∃ l : Loaded,
      b = .members [.endpoint l.issued] ∧
      h.cell.move (.update b) = (⟨⟨l.issued⟩, h.cell.snapshots⟩, ⟨.ok (.current l.settings.endpoint),
        [⟨.info, "alertmanager_config_updated",
          [("enabled", .bool l.settings.endpoint.enabled),
            ("room", .text l.settings.endpoint.room)]⟩]⟩) ∧
      (h.renew w path).1 = ⟨cache, (h.cell.move (.update b)).1⟩ ∧
      (∀ w₁, cache.get w₁ = .ok (cache, l)) ∧
      ∀ acts : List (Surroundings × Act), (∀ a ∈ acts, a.2.IsJoint) →
        ((h.renew w path).1.after acts).Together) ∧
    ∀ p, (h.cache.reload w path = .error p ↔ w.read path = .error p) ∧
      (h.cache.reload w path = .error p → h.renew w path = (h, ⟨.error p, []⟩)) ∧
      ((h.renew w path).2.result = .error p → h.cache.reload w path = .error p) := by
  rw [reload_eq]
  cases read : w.read path with
  | ok x =>
    have renewed := h.renew_read w path x read
    refine ⟨fun cache b reloaded => ?_, fun p => ⟨⟨nofun, nofun⟩, nofun, fun failed => ?_⟩⟩
    · cases reloaded
      refine ⟨⟨h.cache.next, x⟩, rfl, h.cell.move_accepted _, ?_, fun w₁ => rfl, fun acts joint => ?_⟩
      · rw [renewed]
        rfl
      · exact together_after _ acts joint (h.together_renew w path x read)
    · rw [renewed] at failed
      cases failed
  | error q =>
    have unrenewed := h.renew_unread w path q read
    refine ⟨nofun, fun p => ⟨⟨fun same => ?_, fun same => ?_⟩, fun same => ?_, fun failed => ?_⟩⟩
    · cases same
      rfl
    · cases same
      rfl
    · cases same
      exact unrenewed
    · rw [unrenewed] at failed
      cases failed
      rfl

/-- A cell is renewed from the file that the environment names. -/
theorem renewed_from_named_file :
    let w : Surroundings := ⟨Files.empty.withFile ["am.yaml"]
      ((Text.ofString "alertmanager:\n  enabled: true\n  url: https://am.example/api\n").codes.map UInt8.ofNat),
      some "am.yaml"⟩
    let h : Host := ⟨.start, ⟨⟨⟨0, .default⟩⟩, []⟩⟩
    let e : Endpoint := ⟨⟨true, "https://am.example/api", "", [], [], [], []⟩, by decide⟩
    ∃ cache b, h.cache.reload w none = .ok (cache, b) ∧ ∃ l : Loaded, l.settings.endpoint = e ∧
      b = .members [.endpoint l.issued] ∧ (h.renew w none).1.cell.live.current = l.issued ∧
      cache.get w = .ok (cache, l) := by
  intro w h e
  have read : w.read none = .ok ⟨e, ⟨"INFO", "json"⟩⟩ := w.read_of_toOption _ _ (by decide +kernel)
  have reloaded : h.cache.reload w none = .ok (⟨some ⟨0, ⟨e, ⟨"INFO", "json"⟩⟩⟩, 1⟩,
      .members [.endpoint (Loaded.issued ⟨0, ⟨e, ⟨"INFO", "json"⟩⟩⟩)]) := by
    rw [reload_eq, read]
    rfl
  obtain ⟨l, batch, moved, renewed, got, _⟩ := (renewed_together h w none).1 _ _ reloaded
  have same : l = ⟨0, ⟨e, ⟨"INFO", "json"⟩⟩⟩ := (congrArg Prod.snd (Except.ok.inj (got w))).symm
  refine ⟨_, _, reloaded, l, by rw [same], batch, ?_, got w⟩
  rw [renewed, moved]

end Host
end AlertRelay
