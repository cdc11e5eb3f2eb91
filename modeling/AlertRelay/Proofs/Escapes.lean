import Mathlib.Tactic.SplitIfs
import AlertRelay.Json.Printer
import AlertRelay.Json.Reader

/-! Texts between quotes. A code point is written by one or two units, a unit by its character
or by an escape, and the reader takes each back; the pairs are joined at the end. Everything
written is printable. -/
namespace AlertRelay

/-- A text that is a string: its codes are those of characters. -/
def Text.IsString (t : Text) : Prop := ∃ s : String, t = .ofString s

theorem Text.isString_ofString (s : String) : (Text.ofString s).IsString := ⟨s, rfl⟩

theorem Text.IsString.valid {t : Text} (h : t.IsString) : ∀ c ∈ t.codes, c.isValidChar := by
  obtain ⟨s, rfl⟩ := h
  intro c member
  obtain ⟨ch, _, rfl⟩ := List.mem_map.mp member
  exact ch.valid

theorem Text.IsString.legible {t : Text} (h : t.IsString) : t.legible = t := by
  obtain ⟨s, rfl⟩ := h
  exact legible_of_isUnicode _ (isUnicode_ofString s)

namespace Json

def Printable (c : Char) : Prop := 0x20 ≤ c.toNat ∧ c.toNat ≤ 0x7e

instance printableDecidable (c : Char) : Decidable (Printable c) := inferInstanceAs (Decidable (_ ∧ _))

theorem hexValue?_digitChar : ∀ d < 16, hexValue? (Nat.digitChar d) = some d := by decide

theorem printable_digitChar : ∀ d < 16, Printable (Nat.digitChar d) := by decide

theorem toDigits_two (n : Nat) (low : 16 ≤ n) (high : n < 256) :
    Nat.toDigits 16 n = [Nat.digitChar (n / 16), Nat.digitChar (n % 16)] := by
  rw [Nat.toDigits_of_base_le (by decide) low, Nat.toDigits_of_lt_base (by omega)]
  rfl

theorem toDigits_three (n : Nat) (low : 256 ≤ n) (high : n < 4096) :
    Nat.toDigits 16 n =
      [Nat.digitChar (n / 256), Nat.digitChar (n / 16 % 16), Nat.digitChar (n % 16)] := by
  rw [Nat.toDigits_of_base_le (by decide) (by omega), toDigits_two _ (by omega) (by omega),
    Nat.div_div_eq_div_mul]
  rfl

/-- Four digits write any unit, the leading ones by zeros. -/
theorem hexDigits_unit (u : Nat) (small : u < 0x10000) :
    Text.hexDigits 4 u =
      [Nat.digitChar (u / 4096), Nat.digitChar (u / 256 % 16), Nat.digitChar (u / 16 % 16),
        Nat.digitChar (u % 16)] := by
  by_cases one : u < 16
  · have zeros : u / 4096 = 0 ∧ u / 256 = 0 ∧ u / 16 = 0 ∧ u % 16 = u := by omega
    simp [Text.hexDigits, Nat.toDigits_of_lt_base one, zeros, List.replicate]
  by_cases two : u < 256
  · have zeros : u / 4096 = 0 ∧ u / 256 = 0 ∧ u / 16 % 16 = u / 16 := by omega
    simp [Text.hexDigits, toDigits_two u (by omega) two, zeros, List.replicate]
  by_cases three : u < 4096
  · have zeros : u / 4096 = 0 ∧ u / 256 % 16 = u / 256 := by omega
    simp [Text.hexDigits, toDigits_three u (by omega) three, zeros]
  · have four : Nat.toDigits 16 u =
        [Nat.digitChar (u / 4096), Nat.digitChar (u / 256 % 16), Nat.digitChar (u / 16 % 16),
          Nat.digitChar (u % 16)] := by
      rw [Nat.toDigits_of_base_le (by decide) (by omega), toDigits_three _ (by omega) (by omega),
        Nat.div_div_eq_div_mul, Nat.div_div_eq_div_mul]
      rfl
    simp [Text.hexDigits, four]

theorem points_unitEscape (u : Nat) (small : u < 0x10000) (r : List Char) :
    points (unitEscape u ++ r) = (points r).map (fun p => (u :: p.1, p.2)) := by
  have read : unit? (Nat.digitChar (u / 4096)) (Nat.digitChar (u / 256 % 16))
      (Nat.digitChar (u / 16 % 16)) (Nat.digitChar (u % 16)) = some u := by
    have joined : ((u / 4096 * 16 + u / 256 % 16) * 16 + u / 16 % 16) * 16 + u % 16 = u := by omega
    simp only [unit?, hexValue?_digitChar _ (show u / 4096 < 16 by omega),
      hexValue?_digitChar _ (show u / 256 % 16 < 16 by omega),
      hexValue?_digitChar _ (show u / 16 % 16 < 16 by omega),
      hexValue?_digitChar _ (show u % 16 < 16 by omega), joined, Option.pure_def, Option.bind_eq_bind,
      Option.bind_some]
  simp only [unitEscape, hexDigits_unit u small, List.cons_append, List.nil_append, points, read]
  cases points r <;> rfl

theorem points_plain (c : Char) (visible : 0x20 ≤ c.toNat) (notQuote : c ≠ '\x22')
    (notEscape : c ≠ '\\') (r : List Char) :
    points (c :: r) = (points r).map (fun p => (c.toNat :: p.1, p.2)) := by
  have high : ¬ c.toNat < 0x20 := by omega
  rw [points]
  · simp only [high, if_false]
    cases points r <;> rfl
  · exact notQuote
  · intro _ _ _ _ _ h
    exact absurd h notEscape
  · intro _ _ h
    exact absurd h notEscape

theorem points_simple (e : Char) (c : Nat) (known : simpleEscape? e = some c) (r : List Char) :
    points ('\\' :: e :: r) = (points r).map (fun p => (c :: p.1, p.2)) := by
  rw [points]
  · simp only [known, Option.bind_eq_bind, Option.bind_some]
    cases points r <;> rfl
  · rintro _ _ _ _ _ rfl
    cases known

def high (c : Nat) : Nat := 0xD800 + (c - 0x10000) / 0x400
def low (c : Nat) : Nat := 0xDC00 + (c - 0x10000) % 0x400

/-- The UTF-16 units of a code point. -/
def units (c : Nat) : List Nat := if c < 0x10000 then [c] else [high c, low c]

/-- The ways to write a code point. -/
inductive Spelled (c : Nat) : List Char → Prop
  | plain (ch : Char) (code : ch.toNat = c) (printable : Printable ch) (notQuote : ch ≠ '\x22')
      (notEscape : ch ≠ '\\') : Spelled c [ch]
  | short (e : Char) (known : simpleEscape? e = some c) (printable : Printable e) (small : c < 0x10000) :
      Spelled c ['\\', e]
  | unit (small : c < 0x10000) : Spelled c (unitEscape c)
  | pair (large : 0x10000 ≤ c) : Spelled c (unitEscape (high c) ++ unitEscape (low c))

theorem toNat_ofNat_visible : ∀ c < 0x7f, (Char.ofNat c).toNat = c := by decide

theorem escapePoint_spelled (c : Nat) : Spelled c (escapePoint c) := by
  unfold escapePoint
  split_ifs with quote escape newline carriage tab feed back visible small
  · subst quote; exact .short '\x22' (by decide) (by decide) (by decide)
  · subst escape; exact .short '\\' (by decide) (by decide) (by decide)
  · subst newline; exact .short 'n' (by decide) (by decide) (by decide)
  · subst carriage; exact .short 'r' (by decide) (by decide) (by decide)
  · subst tab; exact .short 't' (by decide) (by decide) (by decide)
  · subst feed; exact .short 'f' (by decide) (by decide) (by decide)
  · subst back; exact .short 'b' (by decide) (by decide) (by decide)
  · simp only [Bool.and_eq_true, decide_eq_true_eq] at visible
    have code := toNat_ofNat_visible c (by omega)
    refine .plain (Char.ofNat c) code ?_ ?_ ?_
    · rw [Printable, code]
      exact visible
    · intro same
      exact quote (code.symm.trans (congrArg Char.toNat same))
    · intro same
      exact escape (code.symm.trans (congrArg Char.toNat same))
  · exact .unit small
  · exact .pair (by omega)

theorem units_small (c : Nat) (small : c < 0x10000) : units c = [c] := by simp [units, small]

theorem units_large (c : Nat) (large : 0x10000 ≤ c) : units c = [high c, low c] := by
  simp [units, Nat.not_lt.mpr large]

theorem pair_ranges (c : Nat) (valid : c.isValidChar) :
    0xD800 ≤ high c ∧ high c < 0xDC00 ∧ 0xDC00 ≤ low c ∧ low c < 0xE000 := by
  unfold Nat.isValidChar at valid
  unfold high low
  omega

theorem points_spelled (c : Nat) (w : List Char) (spelled : Spelled c w) (valid : c.isValidChar)
    (r : List Char) : points (w ++ r) = (points r).map (fun p => (units c ++ p.1, p.2)) := by
  cases spelled with
  | plain ch code printable notQuote notEscape =>
    have small : c < 0x10000 := by
      have last := printable.2
      omega
    rw [units_small c small, ← code]
    exact points_plain ch printable.1 notQuote notEscape r
  | short e known printable small =>
    rw [units_small c small]
    exact points_simple e c known r
  | unit small =>
    rw [units_small c small]
    exact points_unitEscape c small r
  | pair large =>
    have ranges := pair_ranges c valid
    rw [units_large c large, List.append_assoc, points_unitEscape (high c) (by omega),
      points_unitEscape (low c) (by omega), Option.map_map]
    rfl

theorem printable_unitEscape (u : Nat) (small : u < 0x10000) : ∀ ch ∈ unitEscape u, Printable ch := by
  have head : Printable '\\' ∧ Printable 'u' := by decide
  simp only [unitEscape, hexDigits_unit u small, List.forall_mem_cons]
  exact ⟨head.1, head.2, printable_digitChar _ (by omega), printable_digitChar _ (by omega),
    printable_digitChar _ (by omega), printable_digitChar _ (by omega), by simp⟩

theorem printable_spelled (c : Nat) (w : List Char) (spelled : Spelled c w) (valid : c.isValidChar) :
    ∀ ch ∈ w, Printable ch := by
  cases spelled with
  | plain ch code printable notQuote notEscape => simpa using printable
  | short e known printable small =>
    have head : Printable '\\' := by decide
    simpa using ⟨head, printable⟩
  | unit small => exact printable_unitEscape c small
  | pair large =>
    have ranges := pair_ranges c valid
    intro ch member
    cases List.mem_append.mp member with
    | inl first => exact printable_unitEscape (high c) (by omega) ch first
    | inr second => exact printable_unitEscape (low c) (by omega) ch second

theorem points_writeCodes (cs : List Nat) (valid : ∀ c ∈ cs, c.isValidChar) (r : List Char) :
    points (cs.flatMap escapePoint ++ '\x22' :: r) = some (cs.flatMap units, r) := by
  induction cs with
  | nil => rfl
  | cons c cs ih =>
    rw [List.flatMap_cons, List.append_assoc,
      points_spelled c _ (escapePoint_spelled c) (valid c (by simp)), ih (fun d member => valid d (by simp [member]))]
    simp

theorem joinPairs_units (cs : List Nat) (valid : ∀ c ∈ cs, c.isValidChar) :
    joinPairs (cs.flatMap units) = cs := by
  induction cs with
  | nil => rfl
  | cons c cs ih =>
    have rest := ih (fun d member => valid d (by simp [member]))
    have whole := valid c (by simp)
    -- A pair starts with a surrogate, which no character is, so no single unit is taken for one.
    by_cases small : c < 0x10000
    · have apart : ¬ (0xD800 ≤ c ∧ c < 0xDC00) := by
        unfold Nat.isValidChar at whole
        omega
      simp only [List.flatMap_cons, units_small c small, List.singleton_append]
      cases more : cs.flatMap units with
      | nil => rw [more] at rest; simp [← rest, joinPairs]
      | cons d ds =>
        rw [more] at rest
        simp [joinPairs, apart, rest]
    · have joined : 0x10000 + (high c - 0xD800) * 0x400 + (low c - 0xDC00) = c := by
        unfold high low
        omega
      simp [units_large c (by omega), joinPairs, pair_ranges c whole, joined, rest]

/-- A written text is read back, whatever follows it. -/
theorem string?_writeText (t : Text) (valid : t.IsString) (r : List Char) :
    ∃ s, writeText t ++ r = '\x22' :: s ∧ string? s = some (.text t, r) := by
  refine ⟨t.codes.flatMap escapePoint ++ '\x22' :: r, by simp [writeText, writeCodes], ?_⟩
  simp [string?, points_writeCodes t.codes valid.valid, joinPairs_units t.codes valid.valid]

theorem printable_writeText (t : Text) (valid : t.IsString) : ∀ ch ∈ writeText t, Printable ch := by
  have quote : Printable '\x22' := by decide
  have inner : ∀ ch ∈ t.codes.flatMap escapePoint, Printable ch := by
    intro ch member
    obtain ⟨c, known, written⟩ := List.mem_flatMap.mp member
    exact printable_spelled c _ (escapePoint_spelled c) (valid.valid c known) ch written
  simp only [writeText, writeCodes, List.cons_append, List.forall_mem_cons, List.forall_mem_append]
  exact ⟨quote, inner, by simpa using quote⟩

end Json
end AlertRelay
