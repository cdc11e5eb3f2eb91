import AlertRelay.Proofs.Bodies
import AlertRelay.Proofs.Commands
import AlertRelay.Proofs.Endings
import AlertRelay.Proofs.Merging

/-! What the self-test sends. Labels and annotations are decided apart from each other: those of the
command line if there is one, and those of the settings otherwise. Lists of the settings that do not
pair up are the one thing that keeps an enabled endpoint from a request. -/
namespace AlertRelay.SelfTest

inductive Family
  | labels
  | annotations
deriving DecidableEq

namespace Family

def flag : Family → Flag
  | labels => .label
  | annotations => .remark

def names (e : Endpoint) : Family → List Text
  | labels => e.testLabelNames
  | annotations => e.testAnnotationNames

def values (e : Endpoint) : Family → List Text
  | labels => e.testLabelValues
  | annotations => e.testAnnotationValues

end Family

/-- A part of the command line: a pair of one of the families, or another option. -/
inductive Token
  | pair (f : Family) (name value : Text)
  | setting (o : Written)

namespace Token

def item (p : Text × Text) : Text := p.1 ++ "=" ++ p.2

def written : Token → Written
  | pair f n v => ⟨f.flag, item (n, v), true⟩
  | setting o => o

def words (t : Token) : List Text := t.written.words

/-- A name is not empty and holds no sign; the other options are those for the settings, the level of
the log and the room. -/
def IsSound : Token → Prop
  | pair _ n _ => n.codes ≠ [] ∧ sign ∉ n.codes
  | setting o => o.Sound ∧ (o.flag = .config ∨ o.flag = .logLevel ∨ o.flag = .room)

def ofFamily? (f : Family) : Token → Option (Text × Text)
  | pair g n v => if g = f then some (n, v) else none
  | setting _ => none

def given (f : Family) (ts : List Token) : Fields Text := ts.filterMap (ofFamily? f)

def arguments (ts : List Token) : Arguments := Written.gathered (ts.map written)

/-- Nothing is given for a family, and what is configured does not pair up. -/
def Uneven (ts : List Token) (e : Endpoint) (f : Family) : Prop :=
  given f ts = [] ∧ (f.names e).length ≠ (f.values e).length

/-- What is given for a family, or what is configured where nothing is. -/
def attached (ts : List Token) (e : Endpoint) (f : Family) : Fields Text :=
  if (given f ts).isEmpty then (f.names e).zip (f.values e) else given f ts

end Token

theorem pair?_item (p : Text × Text) (named : p.1.codes ≠ []) (signless : sign ∉ p.1.codes) :
    pair? (Token.item p) = some p := by
  have notEmpty : p.1.codes.isEmpty = false := by
    cases known : p.1.codes with
    | nil => exact absurd known named
    | cons c r => rfl
  unfold pair? Token.item
  rw [codes_signed, takeWhile_sign _ _ signless, dropWhile_sign _ _ signless]
  simp only [notEmpty, Bool.false_eq_true, if_false]

theorem splitPairs_items (ps : Fields Text) (flag : Text)
    (sound : ∀ p ∈ ps, p.1.codes ≠ [] ∧ sign ∉ p.1.codes) :
    splitPairs (ps.map Token.item) flag = .ok (ps.map Prod.fst, ps.map Prod.snd) := by
  induction ps with
  | nil => rfl
  | cons p r ih =>
    obtain ⟨named, signless⟩ := sound p List.mem_cons_self
    have rest := ih (fun q member => sound q (List.mem_cons_of_mem p member))
    simp only [List.map_cons, splitPairs, pair?_item p named signless, rest]
    rfl

def Arguments.roomOr (a : Arguments) (configured : Text) : Text :=
  match a.room with
  | some r => if r.isEmpty then configured else r
  | none => configured

/-- The items of a family in place of what is configured. -/
def overridden (items : List Text) (flag : Text) (names values : List Text) :
    Except Text (List Text × List Text) :=
  if items.isEmpty then .ok (names, values) else splitPairs items flag

theorem override_eq (a : Arguments) (t : TestRule) : override a t =
    (overridden a.labels "--label" t.labelNames t.labelValues).bind (fun ls =>
      (overridden a.annotations "--annotation" t.annotationNames t.annotationValues).bind (fun as =>
        .ok ⟨⟨a.roomOr t.room, ls.1, ls.2, as.1, as.2⟩, t.message⟩)) := by
  unfold override overridden
  cases a.labels.isEmpty with
  | true => cases a.annotations.isEmpty <;> rfl
  | false =>
    simp only [Bool.false_eq_true, if_false, bind]
    cases splitPairs a.labels "--label" with
    | error text => rfl
    | ok ls => cases a.annotations.isEmpty <;> rfl

namespace Token

theorem sound_written (ts : List Token) (sound : ∀ t ∈ ts, t.IsSound) : ∀ o ∈ ts.map written, o.Sound := by
  intro o member
  obtain ⟨t, known, rfl⟩ := List.mem_map.mp member
  cases t with
  | pair f n v => exact ⟨by cases f <;> exact Flag.noConfusion, Bool.noConfusion⟩
  | setting o => exact (sound _ known).1

theorem parse_tokens (ts : List Token) (sound : ∀ t ∈ ts, t.IsSound) :
    Arguments.parse (ts.flatMap words) = .ok (arguments ts) := by
  have parsed := parse_written (ts.map written) (sound_written ts sound)
  rw [List.flatMap_map] at parsed
  exact parsed

/-- The items of a family are those of its tokens, whatever stands between them. -/
theorem values_given (f : Family) (ts : List Token) (sound : ∀ t ∈ ts, t.IsSound) :
    Written.valuesOf f.flag (ts.map written) = (given f ts).map item := by
  unfold Written.valuesOf given
  induction ts with
  | nil => rfl
  | cons t r ih =>
    have rest := ih (fun u member => sound u (List.mem_cons_of_mem t member))
    rw [List.map_cons, List.filter_cons, List.filterMap_cons]
    cases t with
    | pair g n v =>
      by_cases same : g = f
      · subst same
        simp only [written, ofFamily?, decide_true, if_true, List.map_cons, rest]
      · have other : g.flag ≠ f.flag := by
          intro flags
          apply same
          cases g <;> cases f <;> first | rfl | cases flags
        simp only [written, ofFamily?, other, same, decide_false, Bool.false_eq_true, if_false, rest]
    | setting o =>
      have other : o.flag ≠ f.flag := by
        obtain ⟨_, flags⟩ := sound _ List.mem_cons_self
        rcases flags with flag | flag | flag <;> rw [flag] <;> cases f <;> exact Flag.noConfusion
      simp only [written, ofFamily?, other, decide_false, Bool.false_eq_true, if_false, rest]

theorem names_given (f : Family) (ts : List Token) (sound : ∀ t ∈ ts, t.IsSound) :
    ∀ p ∈ given f ts, p.1.codes ≠ [] ∧ sign ∉ p.1.codes := by
  intro p member
  obtain ⟨t, known, found⟩ := List.mem_filterMap.mp member
  cases t with
  | setting o => cases found
  | pair g n v =>
    simp only [ofFamily?] at found
    split at found
    · cases found
      exact sound _ known
    · cases found

/-- What a family gets from the command line, or keeps of what is configured. -/
def lists (ts : List Token) (e : Endpoint) (f : Family) : List Text × List Text :=
  if (given f ts).isEmpty then (f.names e, f.values e)
  else ((given f ts).map Prod.fst, (given f ts).map Prod.snd)

theorem zip_lists (ts : List Token) (e : Endpoint) (f : Family) :
    (lists ts e f).1.zip (lists ts e f).2 = attached ts e f := by
  unfold lists attached
  split
  · rfl
  · exact (List.zip_of_prod rfl rfl).symm

theorem uneven_iff (ts : List Token) (e : Endpoint) (f : Family) :
    (lists ts e f).1.length ≠ (lists ts e f).2.length ↔ Uneven ts e f := by
  unfold lists Uneven
  cases known : given f ts with
  | nil => simp
  | cons p r => simp

def rule (ts : List Token) (e : Endpoint) : TestRule :=
  ⟨⟨(arguments ts).roomOr e.room, (lists ts e .labels).1, (lists ts e .labels).2,
    (lists ts e .annotations).1, (lists ts e .annotations).2⟩, Relay.testMessage⟩

theorem overridden_given (ts : List Token) (sound : ∀ t ∈ ts, t.IsSound) (e : Endpoint) (f : Family)
    (flag : Text) : overridden ((given f ts).map item) flag (f.names e) (f.values e) = .ok (lists ts e f) := by
  unfold overridden lists
  rw [List.isEmpty_map]
  split
  · rfl
  · exact splitPairs_items _ flag (names_given f ts sound)

theorem override_tokens (ts : List Token) (sound : ∀ t ∈ ts, t.IsSound) (e : Endpoint) :
    override (arguments ts) (Relay.testRule e) = .ok (rule ts e) := by
  have labels : (arguments ts).labels = (given .labels ts).map item := values_given .labels ts sound
  have annotations : (arguments ts).annotations = (given .annotations ts).map item :=
    values_given .annotations ts sound
  have first := overridden_given ts sound e .labels "--label"
  have second := overridden_given ts sound e .annotations "--annotation"
  simp only [Family.names, Family.values] at first second
  rw [override_eq, labels, annotations]
  simp only [Relay.testRule, first, second, Except.bind]
  rfl

def alert (ts : List Token) (e : Endpoint) : Alert :=
  ⟨.firing, .ofPairs (attached ts e .labels), .ofPairs (attached ts e .annotations)⟩

theorem build_rule (ts : List Token) (e : Endpoint) :
    ((∃ f, Uneven ts e f) → ∃ err,
      (Relay.orderOf (.ofTestRule (rule ts e)) (.level .critical)).build = .error (.adapter err)) ∧
    ((∀ f, ¬ Uneven ts e f) →
      (Relay.orderOf (.ofTestRule (rule ts e)) (.level .critical)).build = .ok (alert ts e)) := by
  have labels : (rule ts e).labelNames.length ≠ (rule ts e).labelValues.length ↔ Uneven ts e .labels :=
    uneven_iff ts e .labels
  have annotations : (rule ts e).annotationNames.length ≠ (rule ts e).annotationValues.length ↔
      Uneven ts e .annotations := uneven_iff ts e .annotations
  rw [tested_build, build_texts]
  constructor
  · rintro ⟨f, uneven⟩
    by_cases first : Uneven ts e .labels
    · -- The labels are looked at first, whichever family is meant.
      exact ⟨_, if_pos (labels.mpr first)⟩
    · have second : Uneven ts e .annotations := by
        cases f with
        | labels => exact absurd uneven first
        | annotations => exact uneven
      exact ⟨_, (if_neg (first ∘ labels.mp)).trans (if_pos (annotations.mpr second))⟩
  · intro even
    rw [if_neg (even .labels ∘ labels.mp), if_neg (even .annotations ∘ annotations.mp)]
    simp only [alert, ← zip_lists]
    rfl

theorem alert_strings (ts : List Token) (e : Endpoint)
    (strings : ∀ f, ∀ p ∈ attached ts e f, p.1.IsString ∧ p.2.IsString) : (alert ts e).Strings := by
  constructor
  · exact fun p member => strings .labels p (Ordered.mem_ofPairs _ p member)
  · exact fun p member => strings .annotations p (Ordered.mem_ofPairs _ p member)

end Token

/-- A run with any tokens, whose settings have an enabled endpoint and whose log can be set up, makes no
request exactly when a family without tokens has configured lists that do not pair up; it ends
with status one then. Otherwise it makes one request to the configured address. Its alert is firing,
and each of its families merges the pairs of the command line, or those that are configured where
there are none; if these are strings, that is what the body reads as. -/
theorem self_test_sends (ts : List Token) (sound : ∀ t ∈ ts, t.IsSound) (w : Surroundings)
    (script : List Response) (x : Settings) (setup : Log.Setup)
    (read : w.read (Token.arguments ts).config = .ok x) (enabled : x.endpoint.enabled = true)
    (logged : Log.Setup.initial.setUp x.log (Token.arguments ts).level .null = (setup, .ok ())) :
    let r := run (ts.flatMap Token.words) w script
    (r.requests = [] ↔ ∃ f, Token.Uneven ts x.endpoint f) ∧
    (r.requests = [] → r.ending = .status 1) ∧
    (r.requests ≠ [] → ∃ a : Alert, r.requests = [⟨0, x.endpoint.url, a.body⟩] ∧ a.status = .firing ∧
      Merges (Token.attached ts x.endpoint .labels) a.labels.entries ∧
      Merges (Token.attached ts x.endpoint .annotations) a.annotations.entries ∧
      ((∀ f, ∀ p ∈ Token.attached ts x.endpoint f, p.1.IsString ∧ p.2.IsString) →
        Json.parse? a.body = some (.list [.ofFields [("Status", .text "firing"),
          ("Labels", a.labels.toValue), ("Annotations", a.annotations.toValue)]]))) := by
  intro r
  have parsed := Token.parse_tokens ts sound
  have ready : Ready (Token.arguments ts) w x setup (Token.rule ts x.endpoint) :=
    ⟨read, logged, Token.override_tokens ts sound x.endpoint⟩
  have ran : r = _ := run_ready parsed w script x setup _ ready
  have posts : r.requests = (tested x.endpoint script (Token.rule ts x.endpoint)).requests :=
    congrArg Report.requests ran
  have ended : r.ending = (concluding (tested x.endpoint script (Token.rule ts x.endpoint)).result).1 :=
    congrArg Report.ending ran
  obtain ⟨uneven, even⟩ := Token.build_rule ts x.endpoint
  by_cases astray : ∃ f, Token.Uneven ts x.endpoint f
  · obtain ⟨err, unbuilt⟩ := uneven astray
    obtain ⟨requests, result, _⟩ := tested_unbuilt x.endpoint script _ _ unbuilt
    rw [requests] at posts
    rw [result] at ended
    exact ⟨iff_of_true posts astray, fun _ => ended, fun posted => absurd posts posted⟩
  · have built := even (fun f h => astray ⟨f, h⟩)
    obtain ⟨requests, _, _⟩ := tested_built x.endpoint script _ _ built
    rw [requests, enabled, if_pos rfl] at posts
    have posted : r.requests ≠ [] := by
      rw [posts]
      exact List.cons_ne_nil _ _
    refine ⟨iff_of_false posted astray, fun none => absurd none posted, fun _ => ?_⟩
    refine ⟨Token.alert ts x.endpoint, posts, rfl, merges_ofPairs _, merges_ofPairs _, fun strings => ?_⟩
    exact (Token.alert ts x.endpoint).parse?_body (Token.alert_strings ts x.endpoint strings)

/-- A label that is given twice among other options, and annotations that are configured without
values: one of the command line takes their place. -/
theorem repeated_label_sent :
    let ts : List Token := [.pair .labels "a" "1", .setting ⟨.config, "am.yaml", false⟩,
      .pair .annotations "s" "x=y", .pair .labels "b" "", .pair .labels "a" "2"]
    let w : Surroundings := ⟨Files.empty.withFile ["am.yaml"]
      ((Text.ofString "alertmanager:\n  enabled: true\n  url: https://am.example/api\n  test_annotation_names: [n]\n").codes.map
        UInt8.ofNat), none⟩
    let e : Endpoint := ⟨⟨true, "https://am.example/api", "", [], [], ["n"], []⟩, by decide⟩
    let r := run (ts.flatMap Token.words) w []
    (∀ t ∈ ts, t.IsSound) ∧ w.read (Token.arguments ts).config = .ok ⟨e, ⟨"INFO", "json"⟩⟩ ∧
      Token.Uneven [] e .annotations ∧
      ∃ a : Alert, r.requests = [⟨0, e.url, a.body⟩] ∧
        Merges [("a", "1"), ("b", ""), ("a", "2")] a.labels.entries ∧
        Merges [("s", "x=y")] a.annotations.entries := by
  intro ts w e r
  have sound : ∀ t ∈ ts, t.IsSound := by
    intro t member
    simp only [ts, List.mem_cons, List.not_mem_nil, or_false] at member
    rcases member with rfl | rfl | rfl | rfl | rfl
    case inr.inl => exact ⟨⟨Flag.noConfusion, fun _ => rfl⟩, Or.inl rfl⟩
    all_goals exact ⟨List.cons_ne_nil _ _, by decide⟩
  have read : w.read (Token.arguments ts).config = .ok ⟨e, ⟨"INFO", "json"⟩⟩ :=
    w.read_of_toOption _ _ (by decide +kernel)
  obtain ⟨unposted, _, sent⟩ :=
    self_test_sends ts sound w [] ⟨e, ⟨"INFO", "json"⟩⟩ ⟨some .json, 20, 20, 20, true⟩ read rfl rfl
  have posted : r.requests ≠ [] := by
    intro none
    obtain ⟨f, given, _⟩ := unposted.mp none
    cases f <;> cases given
  obtain ⟨a, requests, _, labels, annotations, _⟩ := sent posted
  exact ⟨sound, read, ⟨rfl, by decide⟩, a, requests, labels, annotations⟩

end AlertRelay.SelfTest
