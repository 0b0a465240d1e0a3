import FormatHost.Proofs.Json.Nesting
/-!
# Staged configurations are taken whole or not at all

A staged text that spells an object is the map of its latest members if all of them are booleans, integers
and texts, and the empty map otherwise; and so is every text that spells no object. It is read as that map
wherever there is room for its containers.
-/
namespace FormatHost

namespace Utf8

variable {b : UInt8} {cs : List Char}

/-- The bytes of an encoded character: none of them opens a mark of another encoding, and only that of the
zero character is zero. -/
theorem of_mem_encodeNat {n : Nat} (inside : n < 0x110000) (mem : b ∈ encodeNat n) :
    b.toNat < 0xF8 ∧ (b.toNat = 0 → n = 0) := by
  have number (k : Nat) (small : k < 256) : (UInt8.ofNat k).toNat = k := toNat_ofNat small
  unfold encodeNat at mem
  split at mem
  · obtain rfl := List.mem_singleton.1 mem
    rw [number n (by omega)]
    omega
  split at mem
  · simp only [List.mem_cons, List.not_mem_nil, or_false] at mem
    rcases mem with rfl | rfl <;> rw [number _ (by omega)] <;> omega
  split at mem
  · simp only [List.mem_cons, List.not_mem_nil, or_false] at mem
    rcases mem with rfl | rfl | rfl <;> rw [number _ (by omega)] <;> omega
  · simp only [List.mem_cons, List.not_mem_nil, or_false] at mem
    rcases mem with rfl | rfl | rfl | rfl <;> rw [number _ (by omega)] <;> omega

theorem of_mem_encodeChars (mem : b ∈ encodeChars cs) :
    b.toNat < 0xF8 ∧ (b.toNat = 0 → '\x00' ∈ cs) := by
  obtain ⟨c, here, mem⟩ := List.mem_flatMap.1 mem
  have valid : c.toNat < 0xD800 ∨ 0xDFFF < c.toNat ∧ c.toNat < 0x110000 := c.valid
  obtain ⟨small, zero⟩ := of_mem_encodeNat (by omega) mem
  refine ⟨small, fun none => ?_⟩
  have nul : c = '\x00' := Char.ext (UInt32.toNat_inj.1 (zero none))
  exact nul ▸ here

/-- What begins with the bytes of a byte order mark begins with the mark. -/
theorem exists_mark {rest : Bytes} (marked : encodeChars cs = 0xEF :: 0xBB :: 0xBF :: rest) :
    ∃ cs', cs = '\uFEFF' :: cs' := by
  cases cs with
  | nil => exact absurd marked (by simp [encodeChars])
  | cons c cs =>
    have first := front_encodeNat true c (encodeChars cs)
    rw [← encodeChars_cons, marked] at first
    have mark : front true (0xEF :: 0xBB :: 0xBF :: rest) = .ok (.char '\uFEFF', 3) := rfl
    obtain ⟨same, -⟩ := Prod.mk.inj (Except.ok.inj (mark.symm.trans first))
    exact ⟨cs, by rw [Symbol.char.inj same]⟩

end Utf8

namespace Text

open Utf8

variable {cs : List Char}

theorem Encoding.detect_mark (cs : List Char) :
    Encoding.detect (encodeChars ('\uFEFF' :: cs)) = (.utf8, encodeChars cs) := rfl

/-- Bytes of which none is zero are those of UTF-8. -/
theorem Encoding.ofZeros_of_solid {data : Bytes} (solid : ∀ b ∈ data, b ≠ 0) :
    Encoding.ofZeros data = .utf8 := by
  unfold ofZeros
  split
  · simp [solid]
  · simp [solid]
  · rfl

theorem Encoding.detect_unmarked (solid : '\x00' ∉ cs) (unmarked : ∀ cs', cs ≠ '\uFEFF' :: cs') :
    Encoding.detect (encodeChars cs) = (.utf8, encodeChars cs) := by
  have small {b : UInt8} (mem : b ∈ encodeChars cs) : b.toNat < 0xF8 := (of_mem_encodeChars mem).1
  have some {b : UInt8} (mem : b ∈ encodeChars cs) : b ≠ 0 := by
    rintro rfl
    exact solid ((of_mem_encodeChars mem).2 rfl)
  have mark {rest : Bytes} (same : encodeChars cs = 0xEF :: 0xBB :: 0xBF :: rest) : False := by
    obtain ⟨cs', rfl⟩ := exists_mark same
    exact unmarked cs' rfl
  -- from here on the characters behind the bytes do not matter
  revert small some mark
  generalize encodeChars cs = data
  intro small some mark
  unfold detect
  split
  · exact absurd rfl (some List.mem_cons_self)
  · exact absurd (small List.mem_cons_self) (by decide)
  · exact absurd (small List.mem_cons_self) (by decide)
  · exact absurd (small List.mem_cons_self) (by decide)
  · exact (mark rfl).elim
  · rw [ofZeros_of_solid fun b mem => some mem]

/-- A text without zero characters is read as it was encoded, behind its byte order mark if it has one. -/
theorem ofBytes?_encodeChars {cs : List Char} (solid : '\x00' ∉ cs) :
    (∃ cs', cs = '\uFEFF' :: cs' ∧ ofBytes? (encodeChars cs) = some (ofChars cs')) ∨
      (∀ cs', cs ≠ '\uFEFF' :: cs') ∧ ofBytes? (encodeChars cs) = some (ofChars cs) := by
  by_cases marked : ∃ cs', cs = '\uFEFF' :: cs'
  · obtain ⟨cs', rfl⟩ := marked
    refine .inl ⟨cs', rfl, ?_⟩
    rw [ofBytes?, Encoding.detect_mark]
    simp only [decodeLone_encodeChars]
    rfl
  · have unmarked (cs' : List Char) : cs ≠ '\uFEFF' :: cs' := fun same => marked ⟨cs', same⟩
    refine .inr ⟨unmarked, ?_⟩
    rw [ofBytes?, Encoding.detect_unmarked solid unmarked]
    simp only [decodeLone_encodeChars]
    rfl

end Text

/-! ### Objects -/

namespace Json

variable {s t : Text} {p : Part}

theorem Blanks.solid (blanks : Blanks t) : .char '\x00' ∉ t :=
  fun mem => absurd (blanks _ mem) (by decide)

theorem Pieced.solid {ps : List Piece} (pieced : Pieced t ps) : .char '\x00' ∉ t := by
  induction pieced with
  | none => exact List.not_mem_nil
  | @plain s t ps plain quote slash rest ih =>
    refine fun mem => (List.mem_cons.1 mem).elim ?_ ih
    rintro rfl
    exact absurd plain (by decide)
  | @short s c t ps letter rest ih =>
    have apart : s ≠ .char '\x00' := by
      rintro rfl
      exact absurd letter (by simp [shortEscape?])
    simp [ih, Ne.symm apart]
  | @unit a b c d n t ps digits rest ih =>
    have value {x : Symbol} {k : Nat} (known : hexValue? x = some k) : Symbol.char '\x00' ≠ x := by
      rintro rfl
      have none : hexValue? (.char '\x00') = .none := by decide
      exact absurd (none.symm.trans known) (by simp)
    obtain ⟨i, first, digits⟩ := Option.bind_eq_some_iff.1 digits
    obtain ⟨j, second, digits⟩ := Option.bind_eq_some_iff.1 digits
    obtain ⟨k, third, digits⟩ := Option.bind_eq_some_iff.1 digits
    obtain ⟨l, fourth, -⟩ := Option.bind_eq_some_iff.1 digits
    simp [ih, value first, value second, value third, value fourth]

/-- No zero character stands in a JSON text. -/
theorem Derives.solid (spelled : Derives p t) : .char '\x00' ∉ t := by
  induction spelled with
  | word known =>
    simp only [words, List.mem_cons, Prod.mk.injEq, List.not_mem_nil, or_false] at known
    rcases known with ⟨rfl, rfl⟩ | ⟨rfl, rfl⟩ | ⟨rfl, rfl⟩ | ⟨rfl, rfl⟩ | ⟨rfl, rfl⟩ | ⟨rfl, rfl⟩
    all_goals decide
  | number number => exact number.not_mem (by decide)
  | string quotes =>
    obtain ⟨ps, pieced, -⟩ := quotes
    simp [pieced.solid]
  | list array ih => exact ih
  | map object ih => exact ih
  | lastItem before value behind ih => simp [before.solid, ih, behind.solid]
  | nextItem before value behind rest ih ihs => simp [before.solid, ih, behind.solid, ihs]
  | noItems blanks => simp [blanks.solid]
  | brackets items ih => simp [ih]
  | lastMember before quotes left right value behind ih =>
    obtain ⟨ps, pieced, -⟩ := quotes
    simp [before.solid, pieced.solid, left.solid, right.solid, ih, behind.solid]
  | nextMember before quotes left right value behind rest ih ihs =>
    obtain ⟨ps, pieced, -⟩ := quotes
    simp [before.solid, pieced.solid, left.solid, right.solid, ih, behind.solid, ihs]
  | noMembers blanks => simp [blanks.solid]
  | braces members ih => simp [ih]

theorem Document.solid (document : Document p t) : .char '\x00' ∉ t := by
  obtain ⟨a, u, b, before, spelled, behind, rfl⟩ := document
  simp [before.solid, spelled.solid, behind.solid]

/-- A text that is read as a map is an object with its latest members. -/
theorem exists_object {es : List (Datum × Datum)} (document : Document (.value (.map es)) t) :
    ∃ ms, Document (.object ms) t ∧ es = entries (latest ms) := by
  obtain ⟨a, u, b, before, spelled, behind, rfl⟩ := document
  generalize whole : Part.value (.map es) = p at spelled
  cases spelled with
  | word known =>
    obtain rfl := Part.value.inj whole
    simp [words] at known
  | number number => cases number <;> exact absurd (Part.value.inj whole) (by simp)
  | map object =>
    obtain rfl := Datum.map.inj (Part.value.inj whole)
    exact ⟨_, ⟨a, u, b, before, object, behind, rfl⟩, rfl⟩
  | string | list => exact absurd (Part.value.inj whole) (by simp)
  | _ => exact absurd whole (by simp)

/-- No byte order mark opens an object. -/
theorem Document.unmarked {ms : List (Text × Datum)} (document : Document (.object ms) t) (u : Text) :
    t ≠ .char '\uFEFF' :: u := by
  rintro rfl
  obtain ⟨a, v, b, before, spelled, behind, same⟩ := document
  cases a with
  | nil => cases spelled <;> exact absurd (List.cons.inj same).1 (by decide)
  | cons s a =>
    obtain rfl := (List.cons.inj same).1
    exact absurd (before _ List.mem_cons_self) (by decide)

theorem Document.of_object {ms : List (Text × Datum)} (document : Document (.object ms) t) :
    Document (.value (.map (entries (latest ms)))) t := by
  obtain ⟨a, u, b, before, spelled, behind, same⟩ := document
  exact ⟨a, u, b, before, .map spelled, behind, same⟩

end Json

namespace ConfigMap

open Json

/-- A string spells an object with these members, in the order in which they come; there may be a byte order
mark in front. -/
def Spelled (s : String) (ms : List (Text × Datum)) : Prop :=
  ∃ cs, (s.toList = cs ∨ s.toList = '\uFEFF' :: cs) ∧ Document (.object ms) (Text.ofChars cs)

theorem scalar_eq_some_iff {d : Datum} {v : Scalar} : Scalar.ofDatum? d = some v ↔ d = v.toDatum := by
  constructor
  · intro known
    cases d <;> simp only [Scalar.ofDatum?, Option.some.injEq, reduceCtorEq] at known
    all_goals exact known ▸ rfl
  · rintro rfl
    exact Scalar.ofDatum?_toDatum v

/-- The members of a map are its entries with their values as data. -/
def toMembers (m : ConfigMap) : List (Text × Datum) := m.map fun e => (e.1, e.2.toDatum)

/-- Members make up a map exactly if they are the map's. -/
theorem ofDatum?_entries {ms : List (Text × Datum)} {m : ConfigMap} :
    ofDatum? (.map (entries ms)) = some m ↔ ms = m.toMembers := by
  unfold ofDatum?
  induction ms generalizing m with
  | nil => cases m <;> simp [entries, toMembers]
  | cons e ms ih =>
    obtain ⟨k, d⟩ := e
    have shape : (entries ((k, d) :: ms)).mapM pair? = (do
        let first ← (Scalar.ofDatum? d).map (k, ·)
        let rest ← (entries ms).mapM pair?
        return first :: rest) := List.mapM_cons
    dsimp only at ih ⊢
    rw [shape]
    refine Option.bind_eq_some_iff.trans ⟨?_, ?_⟩
    · rintro ⟨first, valued, done⟩
      obtain ⟨v, scalar, rfl⟩ := Option.map_eq_some_iff.1 valued
      obtain ⟨rest, others, done⟩ := Option.bind_eq_some_iff.1 done
      obtain rfl := Option.some.inj done
      rw [scalar_eq_some_iff.1 scalar, ih.1 others]
      rfl
    · intro same
      cases m with
      | nil => exact absurd same (by simp [toMembers])
      | cons first rest =>
        obtain ⟨head, tail⟩ := List.cons.inj same
        obtain ⟨rfl, rfl⟩ := Prod.mk.inj head
        refine ⟨first, by rw [Scalar.ofDatum?_toDatum]; rfl, ?_⟩
        rw [ih.2 tail]
        rfl

/-- Members whose values are all scalars make up a map. -/
theorem exists_of_scalars {ms : List (Text × Datum)}
    (scalars : ∀ e ∈ ms, ∃ v : Scalar, e.2 = v.toDatum) : ∃ m : ConfigMap, ms = m.toMembers := by
  induction ms with
  | nil => exact ⟨[], rfl⟩
  | cons e ms ih =>
    obtain ⟨k, d⟩ := e
    obtain ⟨v, rfl⟩ := scalars (k, d) List.mem_cons_self
    obtain ⟨m, rfl⟩ := ih fun e mem => scalars e (List.mem_cons_of_mem _ mem)
    exact ⟨(k, v) :: m, rfl⟩

/-- What a string spells is told by the text that is read from its bytes. -/
theorem exists_ofBytes? {s : String} (solid : '\x00' ∉ s.toList) :
    ∃ t, Text.ofBytes? (Utf8.encode s) = some t ∧ ∀ ms, Spelled s ms ↔ Document (.object ms) t := by
  rcases Text.ofBytes?_encodeChars solid with ⟨cs, marked, read⟩ | ⟨unmarked, read⟩
  · refine ⟨_, read, fun ms => ⟨?_, fun document => ⟨cs, .inr marked, document⟩⟩⟩
    rintro ⟨cs', same | same, document⟩
    · rw [← same, marked] at document
      exact absurd rfl (document.unmarked _)
    · obtain rfl : cs = cs' := (List.cons.inj (marked.symm.trans same)).2
      exact document
  · refine ⟨_, read, fun ms => ⟨?_, fun document => ⟨_, .inl rfl, document⟩⟩⟩
    rintro ⟨cs', same | same, document⟩
    · exact same ▸ document
    · exact absurd same (unmarked cs')

theorem Spelled.solid {s : String} {ms : List (Text × Datum)} (spelled : Spelled s ms) :
    '\x00' ∉ s.toList := by
  obtain ⟨cs, same | same, document⟩ := spelled
  · intro mem
    exact document.solid (List.mem_map_of_mem (same ▸ mem))
  · rw [same]
    intro mem
    rcases List.mem_cons.1 mem with mark | mem
    · exact absurd mark (by decide)
    · exact document.solid (List.mem_map_of_mem mem)

/-- The latest members that a string spells are taken if they make up a map. -/
theorem Spelled.parse? {s : String} {ms : List (Text × Datum)} (spelled : Spelled s ms) :
    parse? (Utf8.encode s) = ofDatum? (.map (entries (latest ms))) := by
  obtain ⟨t, read, told⟩ := exists_ofBytes? spelled.solid
  have parsed := parse_eq_ok_iff.2 ((told ms).1 spelled).of_object
  unfold ConfigMap.parse?
  rw [read]
  change (Json.parse .lenient t).toOption >>= ofDatum? = _
  rw [parsed]
  rfl

/-- Nothing is taken from a string that spells no object. -/
theorem parse?_of_not_spelled {s : String} (solid : '\x00' ∉ s.toList) (other : ∀ ms, ¬Spelled s ms) :
    parse? (Utf8.encode s) = none := by
  obtain ⟨t, read, told⟩ := exists_ofBytes? solid
  refine Option.eq_none_iff_forall_ne_some.2 fun m taken => ?_
  unfold ConfigMap.parse? at taken
  rw [read] at taken
  change (Json.parse .lenient t).toOption >>= ofDatum? = _ at taken
  cases parsed : Json.parse .lenient t with
  | error e =>
    rw [parsed] at taken
    exact absurd taken (by simp [Except.toOption])
  | ok d =>
    rw [parsed] at taken
    change ofDatum? d = some m at taken
    cases d with
    | map es =>
      obtain ⟨ms, object, -⟩ := exists_object (parse_eq_ok_iff.1 parsed)
      exact other ms ((told ms).2 object)
    | _ => exact absurd taken (by simp [ofDatum?])

/-! ### Room -/

variable {room : Nat} {data : Bytes} {m : ConfigMap}

/-- How deep the containers of a staged text stand inside each other. -/
def nesting (data : Bytes) : Nat := (Text.ofBytes? data).elim 0 Json.nesting

theorem spelled_of_ofBytes? {t : Text} (read : Text.ofBytes? data = some t) :
    spelled data = match Json.parse .lenient t with
      | .ok d => (ofDatum? d).getD []
      | .error _ => [] := by
  unfold spelled ConfigMap.parse?
  rw [read]
  change ((Json.parse .lenient t).toOption >>= ofDatum?).getD [] = _
  cases Json.parse .lenient t <;> rfl

/-- What is read is the map that the bytes stand for. -/
theorem eq_spelled_of_parse (read : parse room data = .ok m) : m = spelled data := by
  unfold parse at read
  split at read
  · next none =>
    obtain rfl := Except.ok.inj read
    simp [spelled, ConfigMap.parse?, none]
  · next t text =>
    rw [spelled_of_ofBytes? text]
    have shallow : Shallow (Json.parse (.roomy room) t) := by
      intro c same
      simp [same] at read
    rw [← parse_roomy_of_shallow shallow]
    split at read
    · next d value =>
      rw [value]
      exact (Except.ok.inj read).symm
    · exact absurd read (by simp)
    · next e other failed =>
      rw [failed]
      exact (Except.ok.inj read).symm

/-- Where there is room for its containers a text is read. -/
theorem parse_of_nesting (within : nesting data ≤ room + 1) : parse room data = .ok (spelled data) := by
  cases text : Text.ofBytes? data with
  | none => simp [parse, spelled, ConfigMap.parse?, text]
  | some t =>
    rw [nesting, text] at within
    have free := parse_roomy_of_nesting within
    have shallow := (parse_lenient t (Nat.le_refl _)).1
    rw [spelled_of_ofBytes? text]
    simp only [parse, text, free]
    cases result : Json.parse .lenient t with
    | ok d => rfl
    | error e =>
      cases e with
      | tooDeep c => exact absurd result (shallow c)
      | malformed | integerTooLong => rfl

/-- Brackets alone are too deep if there are more of them than the room tells. -/
theorem parse_brackets {n : Nat} (deep : room + 2 ≤ n) :
    parse room (List.replicate n 0x5B) = .error (.tooDeep .array) := by
  have encoded : Utf8.encodeChars (List.replicate n '[') = List.replicate n 0x5B := by
    simp only [Utf8.encodeChars, List.flatMap_replicate]
    exact List.flatten_replicate_singleton
  have solid : '\x00' ∉ List.replicate n '[' := by simp [List.mem_replicate]
  obtain ⟨k, rfl⟩ := Nat.exists_eq_add_of_le deep
  obtain ⟨cs, marked, -⟩ | ⟨-, read⟩ := Text.ofBytes?_encodeChars solid
  · rw [Nat.add_right_comm, List.replicate_succ] at marked
    exact absurd (List.cons.inj marked).1 (by decide)
  have broken := Json.parse_brackets room (List.replicate k (.char '['))
  rw [List.replicate_append_replicate] at broken
  rw [encoded] at read
  simp only [parse, read, Text.ofChars, List.map_replicate, broken]

/-- Where there is room for its containers, a staged string that spells an object is read as its latest
members if all their values are booleans, integers and texts, and as the empty map otherwise; and a string
without zero characters that spells no object is read as the empty map. -/
theorem exact_of_spelled (room : Nat) (s : String) (within : nesting (Utf8.encode s) ≤ room + 1) :
    (∀ ms, Spelled s ms →
      ((∀ e ∈ latest ms, ∃ v : Scalar, e.2 = v.toDatum) →
        ∃ m, parse room (Utf8.encode s) = .ok m ∧ m.toMembers = latest ms) ∧
      ((∃ e ∈ latest ms, ∀ v : Scalar, e.2 ≠ v.toDatum) → parse room (Utf8.encode s) = .ok [])) ∧
    ((∀ ms, ¬Spelled s ms) → '\x00' ∉ s.toList → parse room (Utf8.encode s) = .ok []) := by
  rw [parse_of_nesting within]
  refine ⟨fun ms spelled => ⟨fun scalars => ?_, ?_⟩, fun other solid => ?_⟩
  · obtain ⟨m, same⟩ := exists_of_scalars scalars
    rw [ConfigMap.spelled, spelled.parse?, ofDatum?_entries.2 same]
    exact ⟨m, rfl, same.symm⟩
  · rintro ⟨e, mem, other⟩
    have refused : ofDatum? (.map (entries (latest ms))) = none := by
      refine Option.eq_none_iff_forall_ne_some.2 fun m taken => ?_
      rw [ofDatum?_entries.1 taken] at mem
      obtain ⟨f, -, rfl⟩ := List.mem_map.1 mem
      exact other f.2 rfl
    rw [ConfigMap.spelled, spelled.parse?, refused]
    rfl
  · rw [ConfigMap.spelled, parse?_of_not_spelled solid other]
    rfl

/-- An object that names one key twice. -/
def repeated (t u : List Char) : List Char :=
  ['{', '"', 'a', '"', ':'] ++ t ++ [',', '"', 'a', '"', ':'] ++ u ++ ['}']

theorem document_repeated {t u : List Char} {d d' : Datum} (first : Derives (.value d) (Text.ofChars t))
    (second : Derives (.value d') (Text.ofChars u)) :
    Document (.object [([.char 'a'], d), ([.char 'a'], d')]) (Text.ofChars (repeated t u)) := by
  have quotes : Quotes [.char 'a'] [.char 'a'] :=
    ⟨_, .plain (by decide) (by decide) (by decide) .none, .raw .none⟩
  have last := Derives.lastMember blanks_nil quotes blanks_nil blanks_nil second blanks_nil
  have whole := Derives.nextMember blanks_nil quotes blanks_nil blanks_nil first blanks_nil last
  exact ⟨[], _, [], blanks_nil, .braces whole, blanks_nil, by simp [Text.ofChars, repeated]⟩

theorem derives_one : Derives (.value (.int 1)) (Text.ofChars ['1']) := by
  have whole : Whole [.char '1'] [1] := ⟨rfl, by decide, by decide⟩
  have number : Number false [.char '1'] (.int 1) := .integer whole (by decide)
  exact .number number

def nullWord : List Char := ['n', 'u', 'l', 'l']

theorem derives_null : Derives (.value .null) (Text.ofChars nullWord) :=
  .word (w := "null") (by simp [words])

/-- The general statement, with room for a single container, for a string that spells a map, one that spells
another object, and one that spells none. -/
theorem exact_of_samples :
    (∃ ms, Spelled (String.ofList ('\uFEFF' :: repeated nullWord ['1'])) ms ∧
      latest ms = [([.char 'a'], .int 1)] ∧
      nesting (Utf8.encode (String.ofList ('\uFEFF' :: repeated nullWord ['1']))) ≤ 1 ∧
      ∃ m, parse 0 (Utf8.encode (String.ofList ('\uFEFF' :: repeated nullWord ['1']))) = .ok m ∧
        m.toMembers = latest ms) ∧
    (∃ ms, Spelled (String.ofList (repeated ['1'] nullWord)) ms ∧ latest ms = [([.char 'a'], .null)] ∧
      parse 0 (Utf8.encode (String.ofList (repeated ['1'] nullWord))) = .ok []) ∧
    (∀ ms, ¬Spelled (String.ofList (repeated ['1'] [])) ms) ∧
    parse 0 (Utf8.encode (String.ofList (repeated ['1'] []))) = .ok [] := by
  have spelled : Spelled (String.ofList ('\uFEFF' :: repeated nullWord ['1'])) _ :=
    ⟨_, .inr String.toList_ofList, document_repeated derives_null derives_one⟩
  have spelled' : Spelled (String.ofList (repeated ['1'] nullWord)) _ :=
    ⟨_, .inl String.toList_ofList, document_repeated derives_one derives_null⟩
  have refused : (Json.parse .lenient (Text.ofChars (repeated ['1'] []))).toOption.isNone = true := by
    decide +kernel
  have unspelled (ms : List (Text × Datum)) : ¬Spelled (String.ofList (repeated ['1'] [])) ms := by
    rintro ⟨cs, same | same, document⟩
    · rw [String.toList_ofList] at same
      rw [← same] at document
      rw [parse_eq_ok_iff.2 document.of_object] at refused
      exact absurd refused (by simp [Except.toOption])
    · rw [String.toList_ofList] at same
      exact absurd (List.cons.inj same).1 (by decide)
  have shallow : nesting (Utf8.encode (String.ofList ('\uFEFF' :: repeated nullWord ['1']))) ≤ 1 := by
    decide +kernel
  have shallow' : nesting (Utf8.encode (String.ofList (repeated ['1'] nullWord))) ≤ 1 := by
    decide +kernel
  have shallow'' : nesting (Utf8.encode (String.ofList (repeated ['1'] []))) ≤ 1 := by
    decide +kernel
  refine ⟨⟨_, spelled, rfl, shallow, ?_⟩, ⟨_, spelled', rfl, ?_⟩, unspelled, ?_⟩
  · refine ((exact_of_spelled 0 _ shallow).1 _ spelled).1 fun e mem => ?_
    obtain rfl := List.mem_singleton.1 mem
    exact ⟨.int 1, rfl⟩
  · refine ((exact_of_spelled 0 _ shallow').1 _ spelled').2 ⟨_, List.mem_cons_self, ?_⟩
    rintro (b | n | t) <;> simp [Scalar.toDatum]
  · refine (exact_of_spelled 0 _ shallow'').2 unspelled ?_
    rw [String.toList_ofList]
    decide

end ConfigMap

end FormatHost
