import AlertRelay.Proofs.Escapes
import AlertRelay.Proofs.Exchange
import AlertRelay.Proofs.Pairing

/-! What a posted body says. Values made of strings, arrays and objects with distinct names are
written in a form that is read back whole, so the body of a request determines the alert. -/
namespace AlertRelay

namespace Json

inductive Document : Value → Prop
  | text (t : Text) (valid : t.IsString) : Document (.text t)
  | list (xs : List Value) (members : ∀ x ∈ xs, Document x) : Document (.list xs)
  | object (fs : Fields Value) (distinct : (Ordered.keys fs).Nodup)
      (names : ∀ p ∈ fs, p.1.IsString) (values : ∀ p ∈ fs, Document p.2) : Document (.ofFields fs)

/-- A value whose written form is read whole, given as many steps as it has characters. -/
def ReadBack (v : Value) : Prop :=
  ∀ fuel rest, (write v).length ≤ fuel → value? fuel (write v ++ rest) = some (v, rest)

theorem value?_blank (fuel : Nat) (s : List Char) : value? fuel (' ' :: s) = value? fuel s := by
  cases fuel with
  | zero => rfl
  | succ fuel => rfl

theorem members?_blank (fuel : Nat) (s : List Char) : members? fuel (' ' :: s) = members? fuel s := by
  cases fuel with
  | zero => rfl
  | succ fuel => simp only [members?, value?_blank]

theorem entries?_blank (fuel : Nat) (s : List Char) : entries? fuel (' ' :: s) = entries? fuel s := by
  cases fuel with
  | zero => rfl
  | succ fuel => rfl

theorem members?_written (x : Value) (xs : List Value) (back : ∀ y ∈ x :: xs, ReadBack y)
    (fuel : Nat) (rest : List Char) (enough : (write x ++ writeMore xs).length ≤ fuel) :
    members? fuel (write x ++ writeMore xs ++ rest) = some (x :: xs, rest) := by
  induction xs generalizing x fuel with
  | nil =>
    cases fuel with
    | zero => simp [writeMore] at enough
    | succ fuel =>
      have first := back x (by simp) fuel (']' :: rest) (by simpa [writeMore] using enough)
      simp [members?, writeMore, first, skip, isSpace]
  | cons y ys ih =>
    cases fuel with
    | zero => simp [writeMore] at enough
    | succ fuel =>
      simp only [writeMore, List.cons_append, List.length_append, List.length_cons] at enough
      -- A step is spent on each member, and its comma pays for it.
      have first := back x (by simp) fuel (',' :: ' ' :: (write y ++ writeMore ys ++ rest)) (by omega)
      have more := ih y (fun z member => back z (by simp [member])) fuel
        (by rw [List.length_append]; omega)
      simp only [members?, writeMore, List.append_assoc, List.cons_append] at first more ⊢
      simp [first, more, members?_blank, skip, isSpace]

/-- Fields as the entries of a map. -/
def entries (fs : Fields Value) : List (Scalar × Value) := fs.map (fun p => (Scalar.text p.1, p.2))

theorem entries_cons (p : Text × Value) (fs : Fields Value) :
    entries (p :: fs) = (Scalar.text p.1, p.2) :: entries fs := rfl

def writeField (p : Text × Value) : List Char := writeText p.1 ++ ':' :: ' ' :: write p.2

theorem write_ofFields_cons (p : Text × Value) (fs : Fields Value) :
    write (.ofFields (p :: fs)) = '\x7b' :: (writeField p ++ writeMoreEntries (entries fs)) := by
  simp only [Value.ofFields, List.map_cons, write, writeKey, scalarText, writeField, List.append_assoc,
    List.cons_append]
  rfl

theorem writeMoreEntries_cons (p : Text × Value) (fs : Fields Value) :
    writeMoreEntries (entries (p :: fs)) =
      ',' :: ' ' :: (writeField p ++ writeMoreEntries (entries fs)) := by
  simp only [entries, List.map_cons, writeMoreEntries, writeKey, scalarText, writeField,
    List.append_assoc, List.cons_append]

theorem field_read (p : Text × Value) (name : p.1.IsString) (back : ReadBack p.2) (fuel : Nat)
    (rest : List Char) (enough : (writeField p).length ≤ fuel) :
    ∃ s t, writeField p ++ rest = '\x22' :: s ∧ string? s = some (.text p.1, ':' :: t) ∧
      value? fuel t = some (p.2, rest) := by
  obtain ⟨s, starts, read⟩ := string?_writeText p.1 name (':' :: ' ' :: (write p.2 ++ rest))
  refine ⟨s, ' ' :: (write p.2 ++ rest), ?_, read, ?_⟩
  · simpa [writeField] using starts
  · rw [value?_blank]
    apply back
    simp only [writeField, List.length_append, List.length_cons] at enough
    omega

theorem entries?_written (p : Text × Value) (fs : Fields Value)
    (names : ∀ q ∈ p :: fs, q.1.IsString) (back : ∀ q ∈ p :: fs, ReadBack q.2) (fuel : Nat)
    (rest : List Char) (enough : (writeField p ++ writeMoreEntries (entries fs)).length ≤ fuel) :
    entries? fuel (writeField p ++ writeMoreEntries (entries fs) ++ rest) =
      some (entries (p :: fs), rest) := by
  induction fs generalizing p fuel with
  | nil =>
    cases fuel with
    | zero => simp [entries, writeMoreEntries] at enough
    | succ fuel =>
      obtain ⟨s, t, starts, name, value⟩ :=
        field_read p (names p (by simp)) (back p (by simp)) fuel ('\x7d' :: rest)
          (by simpa [entries, writeMoreEntries] using enough)
      simp only [entries, List.map_nil, List.map_cons, writeMoreEntries, List.append_assoc,
        List.singleton_append, starts]
      simp [entries?, skip, isSpace, name, value]
  | cons q qs ih =>
    cases fuel with
    | zero => simp [writeMoreEntries_cons] at enough
    | succ fuel =>
      simp only [writeMoreEntries_cons, List.length_append, List.length_cons] at enough
      obtain ⟨s, t, starts, name, value⟩ :=
        field_read p (names p (by simp)) (back p (by simp)) fuel
          (',' :: ' ' :: (writeField q ++ writeMoreEntries (entries qs) ++ rest)) (by omega)
      have more := ih q (fun r member => names r (by simp [member]))
        (fun r member => back r (by simp [member])) fuel (by rw [List.length_append]; omega)
      simp only [writeMoreEntries_cons, List.append_assoc, List.cons_append] at starts more ⊢
      rw [starts]
      simp [entries?, skip, isSpace, name, value, entries?_blank, more, entries_cons]

/-- What a written value starts with: no blank, and nothing that ends an array. -/
theorem write_starts (v : Value) (document : Document v) :
    ∃ c s, write v = c :: s ∧ isSpace c = false ∧ c ≠ ']' := by
  cases document with
  | text t valid => exact ⟨'\x22', _, rfl, by decide, by decide⟩
  | list xs members =>
    cases xs with
    | nil => exact ⟨'[', _, rfl, by decide, by decide⟩
    | cons x xs =>
      exact ⟨'[', write x ++ writeMore xs, by simp only [write, List.cons_append], by decide,
        by decide⟩
  | object fs distinct names values =>
    cases fs with
    | nil => exact ⟨'\x7b', _, rfl, by decide, by decide⟩
    | cons p fs => exact ⟨'\x7b', _, write_ofFields_cons p fs, by decide, by decide⟩

theorem skip_self (c : Char) (s : List Char) (visible : isSpace c = false) : skip (c :: s) = c :: s := by
  simp [skip, visible]

theorem ofPairs_entries (fs : Fields Value) (distinct : (Ordered.keys fs).Nodup) :
    Ordered.ofPairs (entries fs) = entries fs := by
  have renamed := Ordered.ofPairs_map Scalar.text id sameKey_text fs
  rw [Ordered.ofPairs_of_nodup fs distinct] at renamed
  exact renamed

theorem list_readBack (xs : List Value) (documents : ∀ x ∈ xs, Document x)
    (back : ∀ x ∈ xs, ReadBack x) : ReadBack (.list xs) := by
  intro fuel rest enough
  cases xs with
  | nil =>
    cases fuel with
    | zero => simp [write] at enough
    | succ fuel => rfl
  | cons x xs =>
    cases fuel with
    | zero => simp [write] at enough
    | succ fuel =>
      obtain ⟨c, s, starts, visible, notEnd⟩ := write_starts x (documents x (by simp))
      have all := members?_written x xs back fuel rest (by simpa [write] using enough)
      simp only [write, List.cons_append, value?, skip_self '[' _ (by decide)]
      rw [starts, List.cons_append, List.cons_append] at all ⊢
      rw [skip_self c _ visible]
      -- The first member does not look like the end of an empty array.
      split
      · next h => exact absurd (List.cons.inj h).1 notEnd
      · rw [all]
        rfl

theorem object_readBack (fs : Fields Value) (distinct : (Ordered.keys fs).Nodup)
    (names : ∀ p ∈ fs, p.1.IsString) (back : ∀ p ∈ fs, ReadBack p.2) : ReadBack (.ofFields fs) := by
  intro fuel rest enough
  cases fs with
  | nil =>
    cases fuel with
    | zero => simp [Value.ofFields, write] at enough
    | succ fuel => rfl
  | cons p fs =>
    cases fuel with
    | zero => simp [write_ofFields_cons] at enough
    | succ fuel =>
      rw [write_ofFields_cons] at enough ⊢
      have all := entries?_written p fs names back fuel rest (by simpa using enough)
      obtain ⟨s, starts, _⟩ := string?_writeText p.1 (names p (by simp))
        (':' :: ' ' :: (write p.2 ++ writeMoreEntries (entries fs) ++ rest))
      have begins : writeField p ++ writeMoreEntries (entries fs) ++ rest = '\x22' :: s := by
        simpa [writeField] using starts
      rw [begins] at all
      simp only [List.cons_append, begins, value?, skip_self '\x7b' _ (by decide),
        skip_self '\x22' _ (by decide)]
      change (entries? fuel ('\x22' :: s)).map _ = _
      rw [all, Option.map_some, ofPairs_entries _ distinct]
      rfl

theorem text_readBack (t : Text) (valid : t.IsString) : ReadBack (.text t) := by
  intro fuel rest enough
  obtain ⟨s, starts, read⟩ := string?_writeText t valid rest
  cases fuel with
  | zero => simp [write, writeScalar, writeText, writeCodes] at enough
  | succ fuel =>
    simp only [write, writeScalar, starts, value?, skip_self '\x22' _ (by decide), read]
    rfl

theorem document_readBack (v : Value) (document : Document v) : ReadBack v := by
  induction document with
  | text t valid => exact text_readBack t valid
  | list xs members ih => exact list_readBack xs members ih
  | object fs distinct names values ih => exact object_readBack fs distinct names ih

theorem parse?_render (v : Value) (document : Document v) : parse? (render v) = some v := by
  have back := document_readBack v document (2 * (write v).length + 2) [] (by omega)
  rw [List.append_nil] at back
  simp only [parse?, render, String.toList_ofList, back, Option.bind_eq_bind, Option.bind_some]
  rfl

theorem printable_writeMore (xs : List Value) (inner : ∀ x ∈ xs, ∀ ch ∈ write x, Printable ch) :
    ∀ ch ∈ writeMore xs, Printable ch := by
  have signs : Printable ',' ∧ Printable ' ' ∧ Printable ']' := by decide
  induction xs with
  | nil => simpa [writeMore] using signs.2.2
  | cons x xs ih =>
    have tail := ih (fun y member => inner y (by simp [member]))
    simp only [writeMore, List.cons_append, List.forall_mem_cons, List.forall_mem_append]
    exact ⟨signs.1, signs.2.1, inner x (by simp), tail⟩

theorem printable_writeField (p : Text × Value) (name : p.1.IsString)
    (inner : ∀ ch ∈ write p.2, Printable ch) : ∀ ch ∈ writeField p, Printable ch := by
  have signs : Printable ':' ∧ Printable ' ' := by decide
  simp only [writeField, List.forall_mem_append, List.forall_mem_cons]
  exact ⟨printable_writeText p.1 name, signs.1, signs.2, inner⟩

theorem printable_writeMoreEntries (fs : Fields Value)
    (inner : ∀ p ∈ fs, ∀ ch ∈ writeField p, Printable ch) :
    ∀ ch ∈ writeMoreEntries (entries fs), Printable ch := by
  have signs : Printable ',' ∧ Printable ' ' ∧ Printable '\x7d' := by decide
  induction fs with
  | nil => simpa [entries, writeMoreEntries] using signs.2.2
  | cons p fs ih =>
    have tail := ih (fun q member => inner q (by simp [member]))
    simp only [writeMoreEntries_cons, List.forall_mem_cons, List.forall_mem_append]
    exact ⟨signs.1, signs.2.1, inner p (by simp), tail⟩

theorem printable_write (v : Value) (document : Document v) : ∀ ch ∈ write v, Printable ch := by
  have brackets : Printable '[' ∧ Printable ']' ∧ Printable '\x7b' ∧ Printable '\x7d' := by decide
  induction document with
  | text t valid => exact printable_writeText t valid
  | list xs members ih =>
    cases xs with
    | nil => simpa [write] using ⟨brackets.1, brackets.2.1⟩
    | cons x xs =>
      have tail := printable_writeMore xs (fun y member => ih y (by simp [member]))
      simp only [write, List.cons_append, List.forall_mem_cons, List.forall_mem_append]
      exact ⟨brackets.1, ih x (by simp), tail⟩
  | object fs distinct names values ih =>
    have inner (p) (member : p ∈ fs) := printable_writeField p (names p member) (ih p member)
    cases fs with
    | nil => simpa [Value.ofFields, write] using brackets.2.2
    | cons p fs =>
      have tail := printable_writeMoreEntries fs (fun q member => inner q (by simp [member]))
      simp only [write_ofFields_cons, List.forall_mem_cons, List.forall_mem_append]
      exact ⟨brackets.2.2.1, inner p (by simp), tail⟩

end Json

namespace Labels

def Strings (l : Labels) : Prop := ∀ p ∈ l.entries, p.1.IsString ∧ p.2.IsString

theorem wire_of_strings (l : Labels) (strings : l.Strings) : l.wire = l.toValue := by
  have legible : l.entries.map (fun p => (p.1.legible, Value.text p.2)) =
      l.entries.map (fun p => (p.1, Value.text p.2)) := by
    apply List.map_congr_left
    intro p member
    rw [(strings p member).1.legible]
  have distinct : (Ordered.keys (l.entries.map (fun p => (p.1, Value.text p.2)))).Nodup := by
    simpa [Ordered.keys, Function.comp_def] using l.distinct
  rw [wire, legible, Ordered.ofPairs_of_nodup _ distinct, toValue]

theorem toValue_document (l : Labels) (strings : l.Strings) : Json.Document l.toValue := by
  apply Json.Document.object
  · simpa [Ordered.keys, Function.comp_def] using l.distinct
  · intro p member
    obtain ⟨q, known, rfl⟩ := List.mem_map.mp member
    exact (strings q known).1
  · intro p member
    obtain ⟨q, known, rfl⟩ := List.mem_map.mp member
    exact .text q.2 (strings q known).2

theorem toValue_injective (l m : Labels) (same : l.toValue = m.toValue) : l = m := by
  obtain ⟨ps, _⟩ := l
  obtain ⟨qs, _⟩ := m
  simp only [toValue, Value.ofFields, Value.map.injEq, List.map_map] at same
  have equal : ps = qs := by
    refine (List.map_inj_right ?_).mp same
    intro p q h
    simpa [Prod.ext_iff] using h
  subst equal
  rfl

end Labels

theorem Status.text_injective (s t : Status) (same : s.text = t.text) : s = t := by
  cases s <;> cases t <;> first | rfl | exact absurd same (by decide)

theorem Status.text_isString (s : Status) : s.text.IsString := by
  cases s with
  | firing => exact Text.isString_ofString "firing"
  | resolved => exact Text.isString_ofString "resolved"

namespace Alert

def Strings (a : Alert) : Prop := a.labels.Strings ∧ a.annotations.Strings

/-- One array with one object, which has the parts of the alert under their names. -/
def content (a : Alert) : Value :=
  .list [.ofFields
    [("Status", .text a.status.text), ("Labels", a.labels.toValue),
      ("Annotations", a.annotations.toValue)]]

theorem content_injective (a b : Alert) (same : a.content = b.content) : a = b := by
  simp only [content, Value.ofFields, Value.list.injEq, List.cons.injEq, and_true, Value.map.injEq,
    List.map_cons, List.map_nil, Prod.mk.injEq, true_and, Value.scalar.injEq, Scalar.text.injEq] at same
  obtain ⟨status, labels, annotations⟩ := same
  have statuses := Status.text_injective a.status b.status status
  have labelled := a.labels.toValue_injective b.labels labels
  have annotated := a.annotations.toValue_injective b.annotations annotations
  cases a
  cases b
  simp only at statuses labelled annotated
  rw [statuses, labelled, annotated]

theorem content_document (a : Alert) (strings : a.Strings) : Json.Document a.content := by
  refine .list _ ?_
  simp only [List.forall_mem_singleton]
  refine .object _ ?distinct ?names ?values
  case distinct =>
    change (["Status", "Labels", "Annotations"] : List Text).Nodup
    decide
  case names =>
    simp only [List.forall_mem_cons]
    exact ⟨Text.isString_ofString "Status", Text.isString_ofString "Labels",
      Text.isString_ofString "Annotations", List.forall_mem_nil _⟩
  case values =>
    simp only [List.forall_mem_cons]
    exact ⟨.text _ a.status.text_isString, a.labels.toValue_document strings.1,
      a.annotations.toValue_document strings.2, List.forall_mem_nil _⟩

theorem body_of_strings (a : Alert) (strings : a.Strings) : a.body = Json.render a.content := by
  simp only [body, wire, content, a.labels.wire_of_strings strings.1,
    a.annotations.wire_of_strings strings.2]

theorem parse?_body (a : Alert) (strings : a.Strings) : Json.parse? a.body = some a.content := by
  rw [a.body_of_strings strings]
  exact Json.parse?_render a.content (a.content_document strings)

theorem printable_body (a : Alert) (strings : a.Strings) : ∀ ch ∈ a.body.toList, Json.Printable ch := by
  rw [a.body_of_strings strings, Json.render, String.toList_ofList]
  exact Json.printable_write a.content (a.content_document strings)

theorem body_injective (a b : Alert) (strings : a.Strings) (others : b.Strings)
    (same : a.body = b.body) : a = b := by
  have read := a.parse?_body strings
  rw [same, b.parse?_body others] at read
  exact (b.content_injective a (Option.some.inj read)).symm

end Alert

namespace Courier

/-- The one post of a delivery is printable and says the whole alert, with every name and value in
its place, and no other alert is posted by the same body. -/
theorem body_loses_nothing (c : Courier) (e : Endpoint) (a : Alert) (r : Response)
    (on : e.enabled = true) (strings : a.Strings) :
    ∃ q, (c.send e a r).requests = [q] ∧
      (∀ ch ∈ q.body.toList, 0x20 ≤ ch.toNat ∧ ch.toNat ≤ 0x7e) ∧
      Json.parse? q.body =
        some (.list [.ofFields
          [("Status", .text a.status.text),
            ("Labels", .ofFields (a.labels.entries.map (fun p => (p.1, .text p.2)))),
            ("Annotations", .ofFields (a.annotations.entries.map (fun p => (p.1, .text p.2))))]]) ∧
      ∀ (c₁ : Courier) (e₁ : Endpoint) (a₁ : Alert) (r₁ : Response), a₁.Strings →
        ∀ q₁ ∈ (c₁.send e₁ a₁ r₁).requests, q₁.body = q.body → a₁ = a := by
  refine ⟨⟨c.acquire.2, e.url, a.body⟩, ?_, a.printable_body strings, a.parse?_body strings, ?_⟩
  · rw [send_enabled c e a r on]
  · intro c₁ e₁ a₁ r₁ strings₁ q₁ posted same
    cases on₁ : e₁.enabled with
    | false =>
      rw [send_disabled c₁ e₁ a₁ r₁ on₁] at posted
      cases posted
    | true =>
      rw [send_enabled c₁ e₁ a₁ r₁ on₁, List.mem_singleton] at posted
      subst posted
      exact a₁.body_injective a strings₁ strings same

/-- Two alerts whose labels differ in their order alone, with a name that is written by escapes
and a value that takes a pair of units. -/
theorem order_seen_in_body :
    let e : Endpoint := ⟨⟨true, "https://am.example/api", "ops", [], [], [], []⟩, by decide⟩
    let a : Alert := ⟨.firing, ⟨[("\"\\\n", "😀"), ("job", "db")], by decide⟩, .empty⟩
    let b : Alert := ⟨.firing, ⟨[("job", "db"), ("\"\\\n", "😀")], by decide⟩, .empty⟩
    e.enabled = true ∧ a.Strings ∧ b.Strings ∧
      ∃ q ∈ (start.send e a .ok).requests, ∃ q₁ ∈ (start.send e b .ok).requests,
        Json.parse? q.body = some a.content ∧ q₁.body ≠ q.body := by
  intro e a b
  have odd : ("\"\\\n" : Text).IsString ∧ ("😀" : Text).IsString :=
    ⟨Text.isString_ofString _, Text.isString_ofString _⟩
  have plain : ("job" : Text).IsString ∧ ("db" : Text).IsString :=
    ⟨Text.isString_ofString _, Text.isString_ofString _⟩
  have strings : a.Strings ∧ b.Strings := by
    simp only [Alert.Strings, Labels.Strings, Labels.empty, a, b, List.forall_mem_cons]
    simp [odd, plain]
  obtain ⟨q, posted, _, read, apart⟩ := body_loses_nothing start e a .ok rfl strings.1
  refine ⟨rfl, strings.1, strings.2, q, by simp [posted], ⟨0, e.url, b.body⟩,
    List.mem_singleton.mpr rfl, read, ?_⟩
  intro same
  have equal := apart start e b .ok strings.2 _ (List.mem_singleton.mpr rfl) same
  exact absurd equal (by decide)

end Courier
end AlertRelay
