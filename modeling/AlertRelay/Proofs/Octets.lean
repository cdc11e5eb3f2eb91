import AlertRelay.Text.Utf8
import Mathlib.Tactic.SplitIfs

/-! Reading octets as UTF-8. What is read is told by the octets of characters alone: a character where
one stands, and otherwise a mark for the longest part that begins one, or for one octet. The reader
finds both by the lead octet and the ranges of those that follow, and its parts are maximal because an
octet outside its range is in no character that begins so. -/
namespace AlertRelay.Utf8

/-! The leads by how many octets follow them, with the range of the next one. -/

theorem lead?_two (b : Nat) (least : 0xC2 ≤ b) (below : b < 0xE0) :
    lead? b = some ⟨b - 0xC0, 1, 0x80, 0xBF⟩ := by
  have high : ¬ b < 0xC2 := by omega
  simp only [lead?, if_neg high, if_pos below]

theorem lead?_three (b : Nat) (least : 0xE0 ≤ b) (below : b < 0xF0) :
    lead? b = some ⟨b - 0xE0, 2, if b = 0xE0 then 0xA0 else 0x80, if b = 0xED then 0x9F else 0xBF⟩ := by
  have high : ¬ b < 0xC2 ∧ ¬ b < 0xE0 := by omega
  simp only [lead?, if_neg high.1, if_neg high.2, if_pos below]
  by_cases first : b = 0xE0
  · subst first; rfl
  by_cases surrogates : b = 0xED
  · subst surrogates; rfl
  simp only [if_neg first, if_neg surrogates]

theorem lead?_four (b : Nat) (least : 0xF0 ≤ b) (below : b < 0xF5) :
    lead? b = some ⟨b - 0xF0, 3, if b = 0xF0 then 0x90 else 0x80, if b = 0xF4 then 0x8F else 0xBF⟩ := by
  have high : ¬ b < 0xC2 ∧ ¬ b < 0xE0 ∧ ¬ b = 0xE0 ∧ ¬ b = 0xED ∧ ¬ b < 0xF0 := by omega
  simp only [lead?, if_neg high.1, if_neg high.2.1, if_neg high.2.2.1, if_neg high.2.2.2.1,
    if_neg high.2.2.2.2]
  by_cases first : b = 0xF0
  · subst first; rfl
  by_cases last : b = 0xF4
  · subst last; rfl
  have inner : b < 0xF4 := by omega
  simp only [if_neg first, if_neg last, if_pos inner]

theorem lead?_none (b : Nat) (outside : b < 0xC2 ∨ 0xF5 ≤ b) : lead? b = none := by
  unfold lead?
  split_ifs <;> first | rfl | omega

theorem toNat_octet (d : Nat) (octet : d < 256) : (UInt8.ofNat d).toNat = d := by
  rw [UInt8.toNat_ofNat']
  omega

theorem follow_next (bits more low high d : Nat) (r : List UInt8) (octet : d < 256)
    (range : low ≤ d ∧ d ≤ high) :
    follow bits (more + 1) low high (UInt8.ofNat d :: r) =
      ((follow (bits * 64 + d % 64) more 0x80 0xBF r).1,
        (follow (bits * 64 + d % 64) more 0x80 0xBF r).2 + 1) := by
  rw [follow, toNat_octet d octet]
  simp only [range, decide_true, Bool.and_self, if_true]

theorem follow_done (bits low high : Nat) (r : List UInt8) :
    follow bits 0 low high r = (.point bits, 0) := by
  rw [follow]

theorem first_lead (b : UInt8) (r : List UInt8) {bits more low high : Nat} (above : 0x80 ≤ b.toNat)
    (known : lead? b.toNat = some ⟨bits, more, low, high⟩) : first b r = follow bits more low high r := by
  have notPlain : ¬ b.toNat < 0x80 := by omega
  simp only [first, if_neg notPlain, known]

/-- Where a character stands it is read, with all of its octets. -/
theorem first_character (c : Nat) (valid : c.isValidChar) : ∃ b s, encodePoint c = b :: s ∧
    ∀ r, first b (s ++ r) = (.point c, s.length) := by
  unfold Nat.isValidChar at valid
  unfold encodePoint
  split_ifs with one two three
  · refine ⟨_, [], rfl, fun r => ?_⟩
    simp only [first, toNat_octet c (by omega), one, if_true, List.length_nil]
  · have lead : (UInt8.ofNat (0xC0 + c / 64)).toNat = 0xC0 + c / 64 := toNat_octet _ (by omega)
    have code : (0xC0 + c / 64 - 0xC0) * 64 + (0x80 + c % 64) % 64 = c := by omega
    refine ⟨_, _, rfl, fun r => ?_⟩
    rw [first_lead _ _ (by omega) (lead?_two _ (by omega) (by omega)), lead, List.cons_append,
      follow_next _ _ _ _ _ _ (by omega) (by omega), follow_done, code]
    rfl
  · have lead : (UInt8.ofNat (0xE0 + c / 4096)).toNat = 0xE0 + c / 4096 := toNat_octet _ (by omega)
    have code : ((0xE0 + c / 4096 - 0xE0) * 64 + (0x80 + c / 64 % 64) % 64) * 64 + (0x80 + c % 64) % 64 = c := by
      omega
    refine ⟨_, _, rfl, fun r => ?_⟩
    rw [first_lead _ _ (by omega) (lead?_three _ (by omega) (by omega)), lead, List.cons_append, List.cons_append,
      follow_next _ _ _ _ _ _ (by omega) (by constructor <;> split_ifs <;> omega),
      follow_next _ _ _ _ _ _ (by omega) (by omega), follow_done, code]
    rfl
  · have lead : (UInt8.ofNat (0xF0 + c / 262144)).toNat = 0xF0 + c / 262144 := toNat_octet _ (by omega)
    have code : (((0xF0 + c / 262144 - 0xF0) * 64 + (0x80 + c / 4096 % 64) % 64) * 64 +
        (0x80 + c / 64 % 64) % 64) * 64 + (0x80 + c % 64) % 64 = c := by
      omega
    refine ⟨_, _, rfl, fun r => ?_⟩
    rw [first_lead _ _ (by omega) (lead?_four _ (by omega) (by omega)), lead, List.cons_append, List.cons_append,
      List.cons_append, follow_next _ _ _ _ _ _ (by omega) (by constructor <;> split_ifs <;> omega),
      follow_next _ _ _ _ _ _ (by omega) (by omega),
      follow_next _ _ _ _ _ _ (by omega) (by omega), follow_done, code]
    rfl

theorem follow_point {bits more low high c n : Nat} {r : List UInt8}
    (read : follow bits (more + 1) low high r = (.point c, n)) : ∃ x t m, r = x :: t ∧
      low ≤ x.toNat ∧ x.toNat ≤ high ∧ n = m + 1 ∧
      follow (bits * 64 + x.toNat % 64) more 0x80 0xBF t = (.point c, m) := by
  cases r with
  | nil => cases read
  | cons x t =>
    rw [follow] at read
    split at read
    · rename_i range
      simp only [Bool.and_eq_true, decide_eq_true_eq] at range
      obtain ⟨point, size⟩ := Prod.mk.inj read
      exact ⟨x, t, _, rfl, range.1, range.2, size.symm, Prod.ext point rfl⟩
    · cases read

theorem octet_eq {d : Nat} {x : UInt8} (same : d = x.toNat) : UInt8.ofNat d = x := by
  rw [same, UInt8.ofNat_toNat]

/-- What is read as a character is its octets, and nothing else is. -/
theorem character_of_first {b : UInt8} {r : List UInt8} {c n : Nat}
    (read : first b r = (.point c, n)) : c.isValidChar ∧ b :: r.take n = encodePoint c := by
  have octet : b.toNat < 256 := b.toNat_lt
  unfold Nat.isValidChar encodePoint
  by_cases one : b.toNat < 0x80
  · simp only [first, if_pos one] at read
    cases read
    refine ⟨Or.inl (by omega), ?_⟩
    rw [if_pos one, octet_eq rfl]
    rfl
  by_cases outside : b.toNat < 0xC2 ∨ 0xF5 ≤ b.toNat
  · simp only [first, if_neg one, lead?_none _ outside] at read
    cases read
  by_cases two : b.toNat < 0xE0
  · rw [first_lead b r (by omega) (lead?_two _ (by omega) two)] at read
    obtain ⟨x, s, _, rfl, low, high, rfl, read₁⟩ := follow_point read
    rw [follow_done] at read₁
    cases read₁
    refine ⟨by omega, ?_⟩
    rw [if_neg (by omega), if_pos (by omega), octet_eq (x := b) (by omega), octet_eq (x := x) (by omega)]
    rfl
  by_cases three : b.toNat < 0xF0
  · rw [first_lead b r (by omega) (lead?_three _ (by omega) three)] at read
    obtain ⟨x, _, _, rfl, low, high, rfl, read₁⟩ := follow_point read
    obtain ⟨y, s, _, rfl, low₁, high₁, rfl, read₂⟩ := follow_point read₁
    rw [follow_done] at read₂
    cases read₂
    have bounds : (b.toNat = 0xE0 → 0xA0 ≤ x.toNat) ∧ (b.toNat = 0xED → x.toNat ≤ 0x9F) ∧
        0x80 ≤ x.toNat ∧ x.toNat ≤ 0xBF := by
      split_ifs at low high <;> omega
    clear low high
    refine ⟨by omega, ?_⟩
    rw [if_neg (by omega), if_neg (by omega), if_pos (by omega), octet_eq (x := b) (by omega),
      octet_eq (x := x) (by omega), octet_eq (x := y) (by omega)]
    rfl
  · rw [first_lead b r (by omega) (lead?_four _ (by omega) (by omega))] at read
    obtain ⟨x, _, _, rfl, low, high, rfl, read₁⟩ := follow_point read
    obtain ⟨y, _, _, rfl, low₁, high₁, rfl, read₂⟩ := follow_point read₁
    obtain ⟨z, s, _, rfl, low₂, high₂, rfl, read₃⟩ := follow_point read₂
    rw [follow_done] at read₃
    cases read₃
    have bounds : (b.toNat = 0xF0 → 0x90 ≤ x.toNat) ∧ (b.toNat = 0xF4 → x.toNat ≤ 0x8F) ∧
        0x80 ≤ x.toNat ∧ x.toNat ≤ 0xBF := by
      split_ifs at low high <;> omega
    clear low high
    refine ⟨by omega, ?_⟩
    rw [if_neg (by omega), if_neg (by omega), if_neg (by omega), octet_eq (x := b) (by omega),
      octet_eq (x := x) (by omega), octet_eq (x := y) (by omega), octet_eq (x := z) (by omega)]
    rfl

/-- Octets that some character begins with. -/
def Begins (p : List UInt8) : Prop := ∃ c, c.isValidChar ∧ p <+: encodePoint c

/-- A part that no character stands in: one octet or the beginning of a character, which the octet
after it does not continue. -/
structure Maximal (part rest : List UInt8) : Prop where
  nonempty : part ≠ []
  begins : part.length = 1 ∨ Begins part
  unfinished : ∀ c, c.isValidChar → part ≠ encodePoint c
  ends : ∀ b t, rest = b :: t → ¬ Begins (part ++ [b])

/-- What octets are read as, by the octets of characters alone. -/
inductive Reads : List UInt8 → List Nat → Prop
  | done : Reads [] []
  | character {c r cs} (valid : c.isValidChar) (rest : Reads r cs) : Reads (encodePoint c ++ r) (c :: cs)
  | replaced {part r cs} (maximal : Maximal part r) (rest : Reads r cs) :
      Reads (part ++ r) (Text.mark :: cs)

theorem follow_le (bits more low high : Nat) (r : List UInt8) : (follow bits more low high r).2 ≤ r.length := by
  induction more generalizing bits low high r with
  | zero => simp [follow_done]
  | succ more ih =>
    cases r with
    | nil => simp [follow]
    | cons x t =>
      rw [follow]
      split
      · exact Nat.succ_le_succ (ih _ _ _ t)
      · exact Nat.zero_le _

/-- An octet stands alone whatever follows it, or it is a lead. -/
theorem first_cases (b : UInt8) : (∃ u, ∀ r, first b r = (u, 0)) ∨
    ∃ bits more low high, ∀ r, first b r = follow bits more low high r := by
  unfold first
  by_cases plain : b.toNat < 0x80
  · exact Or.inl ⟨.point b.toNat, fun _ => if_pos plain⟩
  simp only [if_neg plain]
  cases lead? b.toNat with
  | none => exact Or.inl ⟨.invalid .badStart, fun _ => rfl⟩
  | some l => exact Or.inr ⟨l.bits, l.more, l.low, l.high, fun _ => rfl⟩

theorem first_le (b : UInt8) (r : List UInt8) : (first b r).2 ≤ r.length := by
  rcases first_cases b with ⟨u, alone⟩ | ⟨bits, more, low, high, lead⟩
  · rw [alone]
    exact Nat.zero_le _
  · rw [lead]
    exact follow_le bits more low high r

/-- The octet at which a part ends decides that it does, whatever follows. -/
theorem follow_local {bits more low high : Nat} {s t : List UInt8} {x : UInt8} {cause : Cause}
    (read : follow bits more low high (s ++ x :: t) = (.invalid cause, s.length)) (u : List UInt8) :
    follow bits more low high (s ++ x :: u) = (.invalid cause, s.length) := by
  induction s generalizing bits more low high with
  | nil =>
    cases more with
    | zero => rw [follow_done] at read; cases read
    | succ more =>
      simp only [List.nil_append, follow] at read ⊢
      split at read
      · cases congrArg Prod.snd read
      · rename_i outside
        rw [if_neg outside, read]
  | cons y s ih =>
    cases more with
    | zero => rw [List.cons_append, follow_done] at read; cases read
    | succ more =>
      simp only [List.cons_append, follow] at read ⊢
      split at read
      · rename_i range
        obtain ⟨invalid, size⟩ := Prod.mk.inj read
        have inner := ih (Prod.ext invalid (Nat.succ.inj size))
        rw [if_pos range, inner]
        rfl
      · cases congrArg Prod.snd read

theorem first_local {b x : UInt8} {s t : List UInt8} {cause : Cause}
    (read : first b (s ++ x :: t) = (.invalid cause, s.length)) (u : List UInt8) :
    first b (s ++ x :: u) = (.invalid cause, s.length) := by
  rcases first_cases b with ⟨_, alone⟩ | ⟨bits, more, low, high, lead⟩
  · rw [alone] at read ⊢
    exact read
  · rw [lead] at read ⊢
    exact follow_local read u

/-- A beginning can be completed by the least octets that may follow. -/
theorem follow_completed (bits more : Nat) : ∃ c, ∀ r,
    follow bits more 0x80 0xBF (List.replicate more 0x80 ++ r) = (.point c, more) := by
  induction more generalizing bits with
  | zero => exact ⟨bits, fun r => follow_done _ _ _ r⟩
  | succ more ih =>
    obtain ⟨c, completed⟩ := ih (bits * 64 + 0x80 % 64)
    refine ⟨c, fun r => ?_⟩
    rw [List.replicate_succ, List.cons_append]
    exact (follow_next bits more 0x80 0xBF 0x80 _ (by decide) (by decide)).trans (by rw [completed])

theorem follow_extends {bits more n : Nat} {r : List UInt8} {cause : Cause}
    (read : follow bits more 0x80 0xBF r = (.invalid cause, n)) :
    ∃ u c, follow bits more 0x80 0xBF (r.take n ++ u) = (.point c, n + u.length) := by
  induction more generalizing bits r n with
  | zero => rw [follow_done] at read; cases read
  | succ more ih =>
    obtain ⟨c, completed⟩ := follow_completed bits (more + 1)
    have least : follow bits (more + 1) 0x80 0xBF (List.replicate (more + 1) 0x80) = (.point c, more + 1) := by
      simpa using completed []
    cases r with
    | nil =>
      cases read
      exact ⟨List.replicate (more + 1) 0x80, c, by simpa using least⟩
    | cons x t =>
      rw [follow] at read
      split at read
      · rename_i range
        obtain ⟨invalid, size⟩ := Prod.mk.inj read
        obtain ⟨u, c, extended⟩ := ih (Prod.ext invalid rfl)
        refine ⟨u, c, ?_⟩
        subst size
        rw [List.take_succ_cons, List.cons_append, follow, if_pos range, extended, Nat.add_right_comm]
      · cases read
        exact ⟨List.replicate (more + 1) 0x80, c, by simpa using least⟩

theorem first_extends {b : UInt8} {r : List UInt8} {cause : Cause} {n : Nat}
    (read : first b r = (.invalid cause, n + 1)) :
    ∃ u c, first b (r.take (n + 1) ++ u) = (.point c, n + 1 + u.length) := by
  rcases first_cases b with ⟨_, alone⟩ | ⟨bits, more, low, high, lead⟩
  · rw [alone] at read
    cases congrArg Prod.snd read
  · simp only [lead] at read ⊢
    cases more with
    | zero => rw [follow_done] at read; cases read
    | succ more =>
      cases r with
      | nil => cases read
      | cons x t =>
        rw [follow] at read
        split at read
        · rename_i range
          obtain ⟨invalid, size⟩ := Prod.mk.inj read
          obtain ⟨u, c, extended⟩ := follow_extends (Prod.ext invalid (Nat.succ.inj size))
          refine ⟨u, c, ?_⟩
          rw [List.take_succ_cons, List.cons_append, follow, if_pos range, extended, Nat.add_right_comm]
        · cases read

theorem character_unread {c : Nat} (valid : c.isValidChar) {b : UInt8} {s r : List UInt8}
    (character : encodePoint c = b :: s) {cause : Cause} {n : Nat} : first b (s ++ r) ≠ (.invalid cause, n) := by
  obtain ⟨b₁, s₁, octets, read⟩ := first_character c valid
  obtain ⟨rfl, rfl⟩ := List.cons.inj (character.symm.trans octets)
  rw [read r]
  exact fun same => nomatch same

/-- What is read as invalid is a maximal part. -/
theorem maximal_of_first {b : UInt8} {r : List UInt8} {cause : Cause} {n : Nat}
    (read : first b r = (.invalid cause, n)) : Maximal (b :: r.take n) (r.drop n) := by
  have size : (r.take n).length = n := by
    have bound := first_le b r
    rw [read] at bound
    exact List.length_take_of_le bound
  refine ⟨List.cons_ne_nil _ _, ?_, fun c valid character => ?_, ?_⟩
  · cases n with
    | zero => exact Or.inl rfl
    | succ n =>
      obtain ⟨u, c, completed⟩ := first_extends read
      obtain ⟨valid, octets⟩ := character_of_first completed
      rw [List.take_of_length_le (by simp [size])] at octets
      exact Or.inr ⟨c, valid, u, octets⟩
  · have whole : first b (r.take n ++ r.drop n) ≠ (.invalid cause, n) := character_unread valid character.symm
    rw [List.take_append_drop] at whole
    exact whole read
  · rintro x t rest ⟨c, valid, more, octets⟩
    rw [← List.take_append_drop n r, rest] at read
    have shifted : first b (r.take n ++ x :: more) = (.invalid cause, (r.take n).length) :=
      first_local (by rw [size]; exact read) more
    have character : encodePoint c = b :: (r.take n ++ x :: more) := by simpa using octets.symm
    have whole : first b (r.take n ++ x :: more ++ []) ≠ (.invalid cause, (r.take n).length) :=
      character_unread valid character
    rw [List.append_nil] at whole
    exact whole shifted

theorem reads_decodeLossy (bs : List UInt8) : Reads bs (decodeLossy bs).codes := by
  unfold decodeLossy
  fun_induction units bs with
  | case1 => exact .done
  | case2 b r u n read ih =>
    have whole : b :: r = (b :: r.take n) ++ r.drop n := by
      rw [List.cons_append, List.take_append_drop]
    rw [whole]
    cases u with
    | point c =>
      obtain ⟨valid, octets⟩ := character_of_first read
      rw [octets]
      exact .character valid ih
    | invalid cause => exact .replaced (maximal_of_first read) ih

theorem Begins.shorten {p q : List UInt8} (shorter : p <+: q) (begins : Begins q) : Begins p :=
  let ⟨c, valid, before⟩ := begins
  ⟨c, valid, shorter.trans before⟩

/-- No character begins with another one. -/
theorem encodePoint_start {c d : Nat} (valid : c.isValidChar) (valid₁ : d.isValidChar)
    (before : encodePoint c <+: encodePoint d) : c = d := by
  obtain ⟨b, s, octets, read⟩ := first_character c valid
  obtain ⟨b₁, s₁, octets₁, read₁⟩ := first_character d valid₁
  obtain ⟨more, whole⟩ := before
  rw [octets, octets₁] at whole
  obtain ⟨rfl, rest⟩ := List.cons.inj whole
  have same := (read (more ++ [])).symm.trans ((List.append_assoc s more [] ▸ rest ▸ read₁ []))
  exact Unit8.point.inj (congrArg Prod.fst same)

/-- Nothing longer that stands where a maximal part does begins a character. -/
theorem Maximal.longest {p q r : List UInt8} (maximal : Maximal p r) (begins : Begins q)
    (before : q <+: p ++ r) : q.length ≤ p.length := by
  refine Nat.le_of_not_lt fun longer => ?_
  cases r with
  | nil =>
    have bound := before.length_le
    rw [List.append_nil] at bound
    omega
  | cons x t =>
    have next : p ++ [x] <+: p ++ x :: t := ⟨t, by simp⟩
    have inner : p ++ [x] <+: q := List.prefix_of_prefix_length_le next before (by simpa using Nat.succ_le_of_lt longer)
    exact maximal.ends x t rfl (begins.shorten inner)

/-- A maximal part is read as invalid, with all of its octets. -/
theorem Maximal.first {b : UInt8} {s r : List UInt8} (maximal : Maximal (b :: s) r) :
    ∃ cause, first b (s ++ r) = (.invalid cause, s.length) := by
  have bound := first_le b (s ++ r)
  rcases read : Utf8.first b (s ++ r) with ⟨u, n⟩
  rw [read] at bound
  have size : ((s ++ r).take n).length = n := List.length_take_of_le bound
  have whole : b :: (s ++ r).take n ++ (s ++ r).drop n = b :: s ++ r := by
    rw [List.cons_append, List.take_append_drop, List.cons_append]
  have notLonger (begins : Begins (b :: (s ++ r).take n)) : n ≤ s.length := by
    have h := maximal.longest begins ⟨_, whole⟩
    rw [List.length_cons, List.length_cons, size] at h
    exact Nat.le_of_succ_le_succ h
  have begins (shorter : n < s.length) : Begins (b :: s) := by
    rcases maximal.begins with single | begins
    · simp only [List.length_cons] at single
      omega
    · exact begins
  cases u with
  | point c =>
    obtain ⟨valid, octets⟩ := character_of_first read
    have bounded := notLonger ⟨c, valid, octets ▸ List.prefix_refl _⟩
    rw [List.take_append_of_le_length bounded] at octets
    rcases Nat.lt_or_eq_of_le bounded with shorter | rfl
    · obtain ⟨d, valid₁, before⟩ := begins shorter
      have inner : b :: s.take n <+: b :: s := ⟨s.drop n, by rw [List.cons_append, List.take_append_drop]⟩
      have same : c = d := encodePoint_start valid valid₁ (octets ▸ inner.trans before)
      rw [← same, ← octets] at before
      have sizes := before.length_le
      simp only [List.length_cons, List.length_take] at sizes
      omega
    · rw [List.take_length] at octets
      exact absurd octets (maximal.unfinished c valid)
  | invalid cause =>
    have other := maximal_of_first read
    have upper : n ≤ s.length := by
      rcases other.begins with single | longer
      · rw [List.length_cons, size] at single
        omega
      · exact notLonger longer
    have lower : s.length ≤ n := by
      refine Nat.le_of_not_lt fun shorter => ?_
      have h := other.longest (begins shorter) (whole ▸ List.prefix_append _ r)
      rw [List.length_cons, List.length_cons, size] at h
      omega
    exact ⟨cause, by rw [Nat.le_antisymm upper lower]⟩

theorem units_cons (b : UInt8) (r : List UInt8) :
    units (b :: r) = ((first b r).1, (first b r).2 + 1) :: units (r.drop (first b r).2) := by
  rw [units]

theorem decodeLossy_first {b : UInt8} {s r : List UInt8} {u : Unit8} (read : first b (s ++ r) = (u, s.length)) :
    (decodeLossy (b :: s ++ r)).codes = u.toPoint :: (decodeLossy r).codes := by
  simp only [decodeLossy, List.cons_append, units_cons, read, List.drop_left, List.map_cons]

theorem decodeLossy_character (c : Nat) (valid : c.isValidChar) (r : List UInt8) :
    (decodeLossy (encodePoint c ++ r)).codes = c :: (decodeLossy r).codes := by
  obtain ⟨b, s, octets, read⟩ := first_character c valid
  rw [octets, decodeLossy_first (read r)]
  rfl

/-- There is one way to read octets, and the reader goes it. -/
theorem reads_iff (bs : List UInt8) (cs : List Nat) : Reads bs cs ↔ cs = (decodeLossy bs).codes := by
  constructor
  · intro reads
    induction reads with
    | done => simp [decodeLossy, units]
    | character valid _ ih => rw [decodeLossy_character _ valid, ih]
    | @replaced part r cs maximal _ ih =>
      cases part with
      | nil => exact absurd rfl maximal.nonempty
      | cons b s =>
        obtain ⟨cause, read⟩ := maximal.first
        rw [decodeLossy_first read, ih]
        rfl
  · rintro rfl
    exact reads_decodeLossy bs

/-- The octets of a string. -/
def octets (s : String) : List UInt8 := s.toUTF8.data.toList

/-- The octets of a character are those of the core library. -/
theorem encodePoint_char (c : Char) : encodePoint c.toNat = String.utf8EncodeChar c := by
  have valid : c.toNat < 0x110000 := by
    have h : c.toNat.isValidChar := c.valid
    unfold Nat.isValidChar at h
    omega
  have code : c.val.toNat = c.toNat := rfl
  unfold encodePoint String.utf8EncodeChar
  rw [code]
  by_cases one : c.toNat < 0x80
  · rw [if_pos one, if_pos (by omega)]
  by_cases two : c.toNat < 0x800
  · have lead : c.toNat / 64 % 32 + 192 = 0xC0 + c.toNat / 64 := by omega
    rw [if_neg one, if_pos two, if_neg (by omega), if_pos (by omega), lead, Nat.add_comm (c.toNat % 64)]
  by_cases three : c.toNat < 0x10000
  · have lead : c.toNat / 4096 % 16 + 224 = 0xE0 + c.toNat / 4096 := by omega
    rw [if_neg one, if_neg two, if_pos three, if_neg (by omega), if_neg (by omega), if_pos (by omega), lead,
      Nat.add_comm (c.toNat / 64 % 64), Nat.add_comm (c.toNat % 64)]
  · have lead : c.toNat / 262144 % 8 + 240 = 0xF0 + c.toNat / 262144 := by omega
    rw [if_neg one, if_neg two, if_neg three, if_neg (by omega), if_neg (by omega), if_neg (by omega), lead,
      Nat.add_comm (c.toNat / 4096 % 64), Nat.add_comm (c.toNat / 64 % 64), Nat.add_comm (c.toNat % 64)]

theorem octets_eq (s : String) : octets s = encode s := by
  have written : s.toUTF8 = s.toList.utf8Encode := by
    rw [← String.toByteArray_ofList, String.ofList_toList]
    rfl
  simp only [octets, written, List.utf8Encode, List.data_toByteArray, encode, Text.ofString,
    List.flatMap_map, encodePoint_char]

theorem decodeLossy_encode (cs : List Nat) (valid : ∀ c ∈ cs, c.isValidChar) (r : List UInt8) :
    (decodeLossy (encode ⟨cs⟩ ++ r)).codes = cs ++ (decodeLossy r).codes := by
  simp only [encode]
  induction cs with
  | nil => rfl
  | cons c cs ih =>
    rw [List.flatMap_cons, List.append_assoc, decodeLossy_character c (valid c List.mem_cons_self),
      ih (fun d member => valid d (List.mem_cons_of_mem c member)), List.cons_append]

theorem decodeLossy_nil : decodeLossy [] = .empty :=
  congrArg Text.mk ((reads_iff [] []).mp .done).symm

theorem decodeLossy_octets (s : String) (r : List UInt8) :
    decodeLossy (octets s ++ r) = s ++ decodeLossy r := by
  have valid : ∀ c ∈ (Text.ofString s).codes, c.isValidChar := by
    intro c member
    obtain ⟨ch, _, rfl⟩ := List.mem_map.mp member
    exact ch.valid
  rw [octets_eq]
  exact congrArg Text.mk (decodeLossy_encode _ valid r)

end AlertRelay.Utf8
