import AlertRelay.Files
import AlertRelay.Proofs.PlainForms

/-! Where paths lead. The plain form of a path leads wherever the path itself leads, in any files. A path is too
long for the system only if it has many octets or a name of many. -/
namespace AlertRelay

namespace Name

/-- The octets of a code point stand before those of the rest, wherever the rest is. -/
theorem octetsFrom_cons (c n : Nat) (r : List Nat) (bs : List UInt8)
    (written : octetsFrom n (c :: r) = .ok bs) : ∃ first rest, bs = first ++ rest ∧
      octetsFrom (n + 1) r = .ok rest ∧
      ∀ m s as, octetsFrom (m + 1) s = .ok as → octetsFrom m (c :: s) = .ok (first ++ as) := by
  cases later : octetsFrom (n + 1) r with
  | error u =>
    simp only [octetsFrom, later] at written
    split at written
    · cases written
    · split at written <;> cases written
  | ok rest =>
    simp only [octetsFrom, later] at written ⊢
    split at written
    · rename_i held
      cases written
      exact ⟨[UInt8.ofNat (c - 0xDC00)], rest, rfl, rfl, fun m s as part => by rw [if_pos held, part]; rfl⟩
    · rename_i free
      split at written
      · cases written
      · rename_i plain
        cases written
        refine ⟨Utf8.encodePoint c, rest, rfl, rfl, fun m s as part => ?_⟩
        rw [if_neg free, if_neg plain, part]
        rfl

/-- Whatever part of a name is taken, it can be written if the name can. -/
theorem octetsFrom_sublist {cs ds : List Nat} (h : cs.Sublist ds) (m n : Nat) (bs : List UInt8)
    (written : octetsFrom n ds = .ok bs) : ∃ as, octetsFrom m cs = .ok as ∧ as.Sublist bs := by
  induction h generalizing m n bs with
  | slnil => exact ⟨[], rfl, List.nil_sublist bs⟩
  | @cons cs ds c h ih =>
    obtain ⟨first, rest, rfl, later, _⟩ := octetsFrom_cons c n ds bs written
    obtain ⟨as, part, fewer⟩ := ih m (n + 1) rest later
    exact ⟨as, part, fewer.trans (List.sublist_append_right first rest)⟩
  | @cons_cons cs ds c h ih =>
    obtain ⟨first, rest, rfl, later, again⟩ := octetsFrom_cons c n ds bs written
    obtain ⟨as, part, fewer⟩ := ih (m + 1) (n + 1) rest later
    exact ⟨first ++ as, again m cs as part, (List.Sublist.refl first).append fewer⟩

end Name

theorem ok_of_bind {ε α β : Type} {x : Except ε α} {g : α → Except ε β} {b : β}
    (passed : (x >>= g) = .ok b) : ∃ a, x = .ok a ∧ g a = .ok b := by
  cases x with
  | error e => cases passed
  | ok a => exact ⟨a, rfl, passed⟩

theorem error_of_bind {ε α β : Type} {x : Except ε α} {g : α → Except ε β} {e : ε}
    (failed : (x >>= g) = .error e) : x = .error e ∨ ∃ a, x = .ok a ∧ g a = .error e := by
  cases x with
  | error d => exact Or.inl (congrArg Except.error (Except.error.inj failed))
  | ok a => exact Or.inr ⟨a, rfl, failed⟩

namespace Files

theorem checkPath_eq (path : Text) : checkPath path = match Name.octets path with
    | .error u => .error (.name (.unwritable u))
    | .ok bs => if bs.contains 0 then .error (.name .zero)
      else if 4096 ≤ bs.length then .error .nameTooLong
      else if path.isEmpty then .error .absent else .ok () := by
  unfold checkPath Name.check Name.size
  cases Name.octets path with
  | error u => rfl
  | ok bs =>
    dsimp only
    cases bs.contains 0 with
    | true => rfl
    | false =>
      by_cases long : 4096 ≤ bs.length
      · rw [if_pos long, if_pos long]
        rfl
      · rw [if_neg long, if_neg long]
        rfl

theorem checkPath_eq_ok_iff (path : Text) : checkPath path = .ok () ↔ ∃ bs, Name.octets path = .ok bs ∧
    bs.contains 0 = false ∧ bs.length < 4096 ∧ path.isEmpty = false := by
  rw [checkPath_eq]
  cases Name.octets path with
  | error u => simp
  | ok bs => simp only [Except.ok.injEq, exists_eq_left']; grind

theorem checkPath_overlong (path : Text) (refused : checkPath path = .error .nameTooLong) :
    4096 ≤ Name.size path := by
  rw [checkPath_eq] at refused
  unfold Name.size
  cases octets : Name.octets path with
  | error u => simp [octets] at refused
  | ok bs => grind

/-- A part of a path that can be asked for can be asked for as well, unless it is empty. -/
theorem checkPath_sublist (s t : Text) (part : s.codes.Sublist t.codes) (named : s.isEmpty = false)
    (asked : checkPath t = .ok ()) : checkPath s = .ok () := by
  obtain ⟨bs, written, nonzero, short, _⟩ := (checkPath_eq_ok_iff t).mp asked
  obtain ⟨as, written₁, fewer⟩ := Name.octetsFrom_sublist part 0 0 bs written
  refine (checkPath_eq_ok_iff s).mpr ⟨as, written₁, ?_, Nat.lt_of_le_of_lt fewer.length_le short, named⟩
  rw [← Bool.not_eq_true, List.contains_iff_mem] at nonzero ⊢
  exact fun zero => nonzero (fewer.subset zero)

/-- What stands at a place. -/
def landing (f : Files) : Place → Option Found
  | .inside names => f.at? names
  | .outside => some .directory

/-- The end of a walk: a path that ends in a slash has to lead to a directory. -/
def arrival (f : Files) (path : Text) (p : Place) : Except Obstacle Found :=
  if Path.isOpenEnded path && !f.isDirectory p then .error .notADirectory
  else match f.landing p with
    | some x => .ok x
    | none => .error .absent

theorem find_eq (f : Files) (path : Text) : f.find path =
    (checkPath path).bind (fun _ => (f.walk path (Path.steps path)).bind (f.arrival path)) := by
  unfold find
  cases checkPath path with
  | error o => rfl
  | ok u =>
    cases f.walk path (Path.steps path) with
    | error o => rfl
    | ok p =>
      simp only [bind, Except.bind, arrival]
      split
      · rfl
      · cases p <;> rfl

theorem arrival_eq_ok_iff (f : Files) (path : Text) (p : Place) (x : Found) : f.arrival path p = .ok x ↔
    (Path.isOpenEnded path = true → f.isDirectory p = true) ∧ f.landing p = some x := by
  unfold arrival
  cases Path.isOpenEnded path <;> cases f.isDirectory p <;> cases f.landing p <;> simp

theorem arrival_not_overlong (f : Files) (path : Text) (p : Place) :
    f.arrival path p ≠ .error .nameTooLong := by
  unfold arrival
  split
  · exact nofun
  · cases f.landing p <;> exact nofun

theorem find_eq_ok_iff (f : Files) (path : Text) (x : Found) : f.find path = .ok x ↔
    checkPath path = .ok () ∧ ∃ p, f.walk path (Path.steps path) = .ok p ∧
      (Path.isOpenEnded path = true → f.isDirectory p = true) ∧ f.landing p = some x := by
  rw [find_eq]
  cases checkPath path with
  | error o => simp [Except.bind]
  | ok u =>
    cases f.walk path (Path.steps path) with
    | error o => simp [Except.bind]
    | ok p => simp only [Except.bind, arrival_eq_ok_iff, Except.ok.injEq, true_and, exists_eq_left']

/-! Single dots -/

theorem walkOne_dot (f : Files) (p q : Place) (walked : f.walkOne p Path.dot = .ok q) :
    q = p ∧ f.isDirectory p = true := by
  unfold walkOne at walked
  cases found : f.isDirectory p with
  | false =>
    rw [found] at walked
    cases walked
  | true =>
    rw [found] at walked
    cases walked
    exact ⟨rfl, rfl⟩

theorem walk_undotted (f : Files) (steps : List Text) (p q : Place)
    (walked : steps.foldlM f.walkOne p = .ok q) :
    (steps.filter (· ≠ Path.dot)).foldlM f.walkOne p = .ok q := by
  induction steps generalizing p with
  | nil => exact walked
  | cons s r ih =>
    rw [List.foldlM_cons] at walked
    obtain ⟨next, one, rest⟩ := ok_of_bind walked
    by_cases dotted : s = Path.dot
    · rw [dotted] at one
      rw [dotted, List.filter_cons_of_neg (by simp), ← (f.walkOne_dot p next one).1]
      exact ih next rest
    · rw [List.filter_cons_of_pos (by simpa using dotted), List.foldlM_cons, one]
      exact ih next rest

/-- A text of dots alone leads to the directory it starts from. -/
theorem find_bare (f : Files) (t : Text) (x : Found) (bare : Path.ofText t = Path.bare)
    (found : f.find t = .ok x) : f.find Path.dot = .ok x := by
  obtain ⟨asked, p, walked, _, stands⟩ := (f.find_eq_ok_iff t x).mp found
  have unrooted : Path.isRooted t = false := by
    rw [← Path.isRooted_ofText, bare]
    rfl
  have dotted : (Path.steps t).filter (· ≠ Path.dot) = [] := congrArg Path.names bare
  rw [walk, unrooted] at walked
  have stays := f.walk_undotted (Path.steps t) _ p walked
  rw [dotted] at stays
  cases stays
  have directory : f.isDirectory (.inside []) = true := by
    obtain ⟨_, _, _, _, named⟩ := (checkPath_eq_ok_iff t).mp asked
    obtain ⟨s, r, steps⟩ := List.exists_cons_of_ne_nil (Path.steps_ne_nil t named unrooted)
    rw [steps] at walked dotted
    rw [List.foldlM_cons] at walked
    obtain ⟨next, one, _⟩ := ok_of_bind walked
    have dot : s = Path.dot := by
      have none := List.filter_eq_nil_iff.mp dotted s List.mem_cons_self
      simpa using none
    rw [dot] at one
    exact (f.walkOne_dot _ next one).2
  refine (f.find_eq_ok_iff Path.dot x).mpr ⟨rfl, .inside [], ?_, fun _ => directory, stands⟩
  show [Path.dot].foldlM f.walkOne (.inside []) = _
  simp [walkOne, directory]

/-- The plain form of a path leads wherever the path leads. -/
theorem find_ofText (f : Files) (t : Text) (x : Found) (found : f.find t = .ok x) :
    f.find (Path.ofText t).text = .ok x := by
  by_cases shown : Path.ofText t = Path.bare
  · rw [shown]
    exact f.find_bare t x shown found
  · obtain ⟨asked, p, walked, _, stands⟩ := (f.find_eq_ok_iff t x).mp found
    have plain := Path.isPlain_ofText t
    have walked₁ : f.walk (Path.ofText t).text (Path.steps (Path.ofText t).text) = .ok p := by
      rw [walk, Path.steps_text _ plain shown, Path.isRooted_ofText]
      exact f.walk_undotted (Path.steps t) _ p walked
    refine (f.find_eq_ok_iff _ x).mpr ⟨?_, p, walked₁, fun openEnded => ?_, stands⟩
    · exact checkPath_sublist _ t (Path.text_sublist t shown) (Path.isEmpty_text _ plain) asked
    · -- Only a root ends in a slash here, and a root is a directory.
      have none := Path.names_of_isOpenEnded _ plain shown openEnded
      have rooted : Path.isRooted (Path.ofText t).text = true := by
        rw [Path.isRooted_ofText, Path.isRooted_iff]
        intro root
        have root₁ : Path.rootOf t = .empty := congrArg Text.mk root
        exact shown (congrArg₂ Path.mk root₁ none)
      rw [walk, Path.steps_text _ plain shown, none, rooted] at walked₁
      cases walked₁
      rfl

/-! Names that are too long -/

theorem entry_overlong (f : Files) (p : Place) (s : Text) (o : Obstacle)
    (refused : f.entry p s = .error o) : isTooLong s = true := by
  unfold entry at refused
  split at refused
  · assumption
  · cases p <;> cases refused

theorem walkOne_overlong (f : Files) (p : Place) (s : Text)
    (refused : f.walkOne p s = .error .nameTooLong) : isTooLong s = true := by
  cases entered : f.entry p s with
  | error o => exact f.entry_overlong p s o entered
  | ok there =>
    -- With an entry to look at, no other branch is refused for a name.
    unfold walkOne at refused
    rw [entered] at refused
    cases p with
    | outside => grind
    | inside names => cases there <;> grind

theorem walk_overlong (f : Files) (steps : List Text) (p : Place)
    (refused : steps.foldlM f.walkOne p = .error .nameTooLong) : ∃ s ∈ steps, isTooLong s = true := by
  induction steps generalizing p with
  | nil => cases refused
  | cons s r ih =>
    rw [List.foldlM_cons] at refused
    rcases error_of_bind refused with here | ⟨next, _, later⟩
    · exact ⟨s, List.mem_cons_self, f.walkOne_overlong p s here⟩
    · obtain ⟨t, member, long⟩ := ih next later
      exact ⟨t, List.mem_cons_of_mem s member, long⟩

theorem find_overlong (f : Files) (path : Text) (refused : f.find path = .error .nameTooLong) :
    4096 ≤ Name.size path ∨ ∃ s ∈ Path.steps path, isTooLong s = true := by
  rw [find_eq] at refused
  rcases error_of_bind refused with unasked | ⟨_, _, rest⟩
  · exact Or.inl (checkPath_overlong path unasked)
  · rcases error_of_bind rest with lost | ⟨p, _, last⟩
    · exact Or.inr (f.walk_overlong _ _ lost)
    · exact absurd last (f.arrival_not_overlong path p)

/-! What stands at a path -/

/-- What a path leads to, if it leads anywhere. -/
def standing (f : Files) (path : Text) : Option Found := (f.find path).toOption

/-- The system will not look at the path, since it or a name on the way is too long. -/
def Overlong (f : Files) (path : Text) : Prop := f.find path = .error .nameTooLong

instance overlongDecidable (f : Files) (path : Text) : Decidable (f.Overlong path) :=
  inferInstanceAs (Decidable (f.find path = .error .nameTooLong))

/-- A path that is never too long. -/
def IsShort (path : Text) : Prop := Name.size path < 4096 ∧ ∀ s ∈ Path.steps path, isTooLong s = false

instance isShortDecidable (path : Text) : Decidable (IsShort path) :=
  inferInstanceAs (Decidable (_ ∧ _))

theorem not_overlong_of_short (f : Files) (path : Text) (short : IsShort path) : ¬ f.Overlong path := by
  intro refused
  rcases f.find_overlong path refused with long | ⟨s, member, long⟩
  · exact Nat.not_lt.mpr long short.1
  · rw [short.2 s member] at long
    cases long

theorem nothing_overlong (f : Files) (path : Text) (refused : f.Overlong path) : f.standing path = none := by
  rw [standing, show f.find path = _ from refused]
  rfl

theorem read_overlong (f : Files) (p : Path) (refused : f.Overlong p.text) :
    f.read p = .error ⟨.nameTooLong, p.text⟩ := by
  rw [read, show f.find p.text = _ from refused]

theorem read_nothing (f : Files) (p : Path) (nothing : f.standing p.text = none)
    (asked : ¬ f.Overlong p.text) : f.read p = .ok none := by
  unfold read
  unfold standing at nothing
  unfold Overlong at asked
  cases found : f.find p.text with
  | ok x =>
    rw [found] at nothing
    cases nothing
  | error o =>
    cases o with
    | nameTooLong => exact absurd found asked
    | _ => rfl

theorem read_standing (f g : Files) (p : Path) (same : f.standing p.text = g.standing p.text)
    (stands : f.standing p.text ≠ none) : f.read p = g.read p := by
  unfold standing at same stands
  cases found : f.find p.text with
  | error o =>
    rw [found] at stands
    exact absurd rfl stands
  | ok x =>
    rw [found] at same
    cases found₁ : g.find p.text with
    | error o =>
      rw [found₁] at same
      cases same
    | ok y =>
      rw [found₁] at same
      cases same
      rw [read, found, read, found₁]

end Files
end AlertRelay
