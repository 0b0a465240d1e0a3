import FormatHost.Proofs.Config.RoundTrip
import FormatHost.Proofs.Json.Scan
/-!
# Values are read by the grammar

Where nesting is free a text is read as a value exactly if the value is spelled by it.
-/
namespace FormatHost.Json

variable {s t rest : Text} {d : Datum}

/-! ### Members with one key -/

theorem lastOf?_concat (ms : List (Text × Datum)) (k key : Text) (d : Datum) :
    lastOf? (ms ++ [(k, d)]) key = if k = key then some d else lastOf? ms key := by
  unfold lastOf?
  rw [List.reverse_append, List.reverse_singleton, List.singleton_append, List.find?_cons]
  by_cases same : k = key
  · rw [if_pos same, beq_iff_eq.2 same]
    rfl
  · rw [if_neg same, beq_eq_false_iff_ne.2 same]

/-- What has a key has a last value. -/
theorem isSome_lastOf? {ms : List (Text × Datum)} {key : Text} (mem : key ∈ ms.map Prod.fst) :
    (lastOf? ms key).isSome := by
  obtain ⟨m, member, rfl⟩ := List.mem_map.1 mem
  rw [lastOf?, Option.isSome_map]
  exact List.find?_isSome.2 ⟨m, List.mem_reverse.2 member, beq_self_eq_true _⟩

theorem eraseDups_concat (keys : List Text) (k : Text) :
    (keys ++ [k]).eraseDups = if k ∈ keys then keys.eraseDups else keys.eraseDups ++ [k] := by
  rw [List.eraseDups_append]
  by_cases mem : k ∈ keys <;> simp [mem, List.removeAll, List.eraseDups_cons]

theorem nodup_eraseDups (keys : List Text) : keys.eraseDups.Nodup := by
  induction keys using List.reverseRecOn with
  | nil => exact List.nodup_nil
  | append_singleton keys k ih =>
    rw [eraseDups_concat]
    split
    · exact ih
    · next fresh =>
      exact List.nodup_append.2 ⟨ih, List.nodup_singleton k, fun a mem b single same => fresh (by
        rw [← List.mem_singleton.1 single, ← same]
        exact List.mem_eraseDups.1 mem)⟩

/-- A member is put in place if its key is there, and to the end if it is not. -/
theorem insert_values {keys : List Text} (once : keys.Nodup) {value value' : Text → Option Datum}
    {k : Text} {d : Datum} (valued : ∀ key ∈ keys, (value key).isSome) (here : value' k = some d)
    (others : ∀ key, key ≠ k → value' key = value key) :
    Datum.insert (entries (keys.filterMap fun key => (value key).map (key, ·))) (.text k) d =
      entries ((if k ∈ keys then keys else keys ++ [k]).filterMap fun key =>
        (value' key).map (key, ·)) := by
  -- the keys in front of `k` keep their values, and those behind it were never compared with it
  induction keys with
  | nil => simp [entries, Datum.insert, here]
  | cons key keys ih =>
    obtain ⟨fresh, once⟩ := List.nodup_cons.1 once
    obtain ⟨v, known⟩ := Option.isSome_iff_exists.1 (valued key List.mem_cons_self)
    have rest := ih once fun key' mem => valued key' (List.mem_cons_of_mem _ mem)
    by_cases same : key = k
    · subst same
      have later : keys.filterMap (fun key => (value' key).map (key, ·)) =
          keys.filterMap fun key => (value key).map (key, ·) :=
        List.filterMap_congr fun key' mem => by
          rw [others key' fun same => fresh (same ▸ mem)]
      simp [entries, Datum.insert, Datum.sameKey, Datum.number?, known, here, later]
    · have apart : (Datum.text key).sameKey (.text k) = false := by
        simp [Datum.sameKey, Datum.number?, same]
      have member : (k ∈ key :: keys) = (k ∈ keys) := by simp [Ne.symm same]
      have shape : (if k ∈ key :: keys then key :: keys else key :: keys ++ [k]) =
          key :: if k ∈ keys then keys else keys ++ [k] := by
        simp only [member]
        split <;> rfl
      rw [shape]
      simp only [List.filterMap_cons, known, others key same, Option.map_some]
      simp only [entries, List.map_cons] at rest ⊢
      rw [Datum.insert, apart, rest]
      rfl

/-- Members that are inserted one after the other are the latest ones. -/
theorem foldl_insert_eq (ms : List (Text × Datum)) :
    ms.foldl (fun m (k, d) => Datum.insert m (.text k) d) [] = entries (latest ms) := by
  induction ms using List.reverseRecOn with
  | nil => rfl
  | append_singleton ms m ih =>
    obtain ⟨k, d⟩ := m
    have valued (key : Text) (mem : key ∈ (ms.map Prod.fst).eraseDups) : (lastOf? ms key).isSome :=
      isSome_lastOf? (List.mem_eraseDups.1 mem)
    have here : lastOf? (ms ++ [(k, d)]) k = some d := by rw [lastOf?_concat, if_pos rfl]
    have others (key : Text) (apart : key ≠ k) : lastOf? (ms ++ [(k, d)]) key = lastOf? ms key := by
      rw [lastOf?_concat, if_neg (Ne.symm apart)]
    rw [List.foldl_append, ih]
    refine (insert_values (nodup_eraseDups _) valued here others).trans ?_
    rw [latest, List.map_append, List.map_singleton, eraseDups_concat]
    simp only [List.mem_eraseDups]

/-! ### Words -/

theorem word?_eq_some_iff {cs : List Char} :
    word? cs s = some rest ↔ s = Text.ofChars cs ++ rest := by
  fun_induction word? cs s with
  | case1 s => simp [Text.ofChars, eq_comm]
  | case2 c cs d rest' same ih =>
    obtain rfl := eq_of_beq same
    simpa [Text.ofChars] using ih
  | case3 c cs d rest' apart =>
    have apart : c ≠ d := by simpa using apart
    simp [Text.ofChars, Ne.symm apart]
  | case4 c cs s other =>
    simp only [reduceCtorEq, false_iff]
    rintro rfl
    exact other c _ rfl

theorem atom_word {w : String} (known : (w, d) ∈ words) (rest : Text) :
    atom (Text.ofString w ++ rest) = .ok (d, rest) := by
  simp only [words, List.mem_cons, Prod.mk.injEq, List.not_mem_nil, or_false] at known
  rcases known with ⟨rfl, rfl⟩ | ⟨rfl, rfl⟩ | ⟨rfl, rfl⟩ | ⟨rfl, rfl⟩ | ⟨rfl, rfl⟩ | ⟨rfl, rfl⟩
  all_goals rfl

/-! ### The front of a text -/

/-- A number opens with a digit. -/
theorem Number.exists_digit {negative : Bool} (number : Number negative t d) :
    ∃ c u, t = .char c :: u ∧ c.isDigit = true := by
  have front {u : Text} {ds : List Nat} (whole : Whole u ds) :
      ∃ c v, u = .char c :: v ∧ c.isDigit = true := by
    obtain ⟨n, ns, rfl⟩ := List.exists_cons_of_ne_nil whole.some
    cases u with
    | nil => exact absurd whole.digits (by simp [Digits])
    | cons s u =>
      have digit : digit? s = some n := (List.cons.inj whole.digits).1
      cases s with
      | surrogate offset => exact absurd digit (by simp [digit?])
      | char c =>
        refine ⟨c, u, rfl, ?_⟩
        simp only [digit?, Option.ite_none_right_eq_some] at digit
        simp only [Char.isDigit, Bool.and_eq_true, decide_eq_true_eq]
        exact digit.1
  cases number with
  | integer whole => exact front whole
  | fraction whole | exponent whole | both whole =>
    obtain ⟨c, u, rfl, isDigit⟩ := front whole
    exact ⟨c, _, rfl, isDigit⟩

theorem atom_number {negative : Bool} (number : Number negative t d) (rest : Text) :
    atom (sign negative ++ t ++ rest) = Json.number negative (t ++ rest) := by
  obtain ⟨c, u, rfl, isDigit⟩ := number.exists_digit
  cases negative with
  | true => exact atom_minus isDigit _
  | false => exact atom_digit isDigit _

/-- A word opens with a letter or a minus, and not like a string or a container. -/
theorem exists_front_word {w : String} (known : (w, d) ∈ words) :
    ∃ c u, Text.ofString w = .char c :: u ∧ isSpace (.char c) = false ∧ c ∉ ['"', '[', '{'] ∧ c ≠ ']' := by
  simp only [words, List.mem_cons, Prod.mk.injEq, List.not_mem_nil, or_false] at known
  rcases known with ⟨rfl, rfl⟩ | ⟨rfl, rfl⟩ | ⟨rfl, rfl⟩ | ⟨rfl, rfl⟩ | ⟨rfl, rfl⟩ | ⟨rfl, rfl⟩
  all_goals exact ⟨_, _, rfl, rfl, by decide, by decide⟩

/-- A value opens with a character that is neither blank nor a closing bracket. -/
theorem exists_front (spelled : Derives (.value d) t) :
    ∃ c u, t = .char c :: u ∧ isSpace (.char c) = false ∧ c ≠ ']' := by
  cases spelled with
  | word known =>
    obtain ⟨c, u, front, solid, -, apart⟩ := exists_front_word known
    exact ⟨c, u, front, solid, apart⟩
  | @number negative t d number =>
    obtain ⟨c, u, rfl, isDigit⟩ := number.exists_digit
    cases negative with
    | true => exact ⟨'-', _, rfl, rfl, by decide⟩
    | false =>
      refine ⟨c, u, rfl, isSpace_of_isDigit isDigit, ?_⟩
      rintro rfl
      exact absurd isDigit (by decide)
  | string quotes => exact ⟨'"', _, rfl, rfl, by decide⟩
  | list array => cases array <;> exact ⟨'[', _, rfl, rfl, by decide⟩
  | map object => cases object <;> exact ⟨'{', _, rfl, rfl, by decide⟩

theorem skip_value (before : Blanks s) (spelled : Derives (.value d) t) (rest : Text) :
    skip (s ++ t ++ rest) = t ++ rest := by
  obtain ⟨c, u, rfl, solid, -⟩ := exists_front spelled
  rw [List.append_assoc, before.skip_append, List.cons_append, skip_char solid]

/-- No bracket closes a list in front of its first item. -/
theorem exists_front_items {ds : List Datum} (spelled : Derives (.items ds) t) (rest : Text) :
    ∃ c u, skip (t ++ rest) = .char c :: u ∧ c ≠ ']' := by
  cases spelled with
  | lastItem before value behind =>
    obtain ⟨c, u, rfl, -, apart⟩ := exists_front value
    exact ⟨c, _, by rw [List.append_assoc, skip_value before value]; rfl, apart⟩
  | nextItem before value behind others =>
    obtain ⟨c, u, rfl, -, apart⟩ := exists_front value
    exact ⟨c, _, by rw [List.append_assoc, List.append_assoc, skip_value before value]; rfl, apart⟩

theorem exists_front_members {ms : List (Text × Datum)} (spelled : Derives (.members ms) t)
    (rest : Text) : ∃ u, skip (t ++ rest) = .char '"' :: u := by
  cases spelled with
  | lastMember before => exact ⟨_, by rw [List.append_assoc, before.skip_append]; rfl⟩
  | nextMember before => exact ⟨_, by rw [List.append_assoc, before.skip_append]; rfl⟩

/-! ### What is spelled is read -/

theorem mem_of_isSpace {s : Symbol} (space : isSpace s = true) :
    s ∈ [.char ' ', .char '\t', .char '\n', .char '\r', .char ',', .char ']', .char '}'] := by
  cases s with
  | surrogate offset => exact absurd space (by simp [isSpace])
  | char c =>
    simp only [isSpace, Bool.or_eq_true, beq_iff_eq] at space
    rcases space with ((rfl | rfl) | rfl) | rfl <;> simp

theorem trails_append {b : Text} (blanks : Blanks b) {c : Char} (closes : c = ',' ∨ c = ']' ∨ c = '}')
    (rest : Text) : Trails (b ++ .char c :: rest) := by
  intro s first
  cases b with
  | nil =>
    obtain rfl := Option.some.inj first
    rcases closes with rfl | rfl | rfl <;> decide
  | cons x b =>
    obtain rfl := Option.some.inj first
    exact mem_of_isSpace (blanks _ List.mem_cons_self)

/-- The parser reads a part from a text, whatever is behind it. Every symbol pays for two steps, that to an
item or a member and that to its value. -/
def Part.Reads : Part → Text → Prop
  | .value d, t => ∀ fuel depth rest, 2 * t.length ≤ fuel → t.length ≤ depth → Trails rest →
      Json.value true fuel depth (t ++ rest) = .ok (d, rest)
  | .items ds, t => ∀ fuel depth rest, 2 * t.length + 1 ≤ fuel → t.length ≤ depth →
      Json.items true fuel depth (skip (t ++ .char ']' :: rest)) = .ok (ds, rest)
  | .array ds, t => ∀ fuel depth rest, 2 * t.length ≤ fuel → t.length ≤ depth →
      Json.value true fuel depth (t ++ rest) = .ok (.list ds, rest)
  | .members ms, t => ∀ fuel depth rest, 2 * t.length + 1 ≤ fuel → t.length ≤ depth →
      Json.members true fuel depth (skip (t ++ .char '}' :: rest)) = .ok (ms, rest)
  | .object ms, t => ∀ fuel depth rest, 2 * t.length ≤ fuel → t.length ≤ depth →
      Json.value true fuel depth (t ++ rest) = .ok (.map (entries (latest ms)), rest)

/-- There is fuel for a text that is not empty. -/
theorem exists_fuel {fuel : Nat} (some : t ≠ []) (enough : 2 * t.length ≤ fuel) : ∃ n, fuel = n + 1 := by
  have positive := List.length_pos_iff.2 some
  exact ⟨fuel - 1, by omega⟩

section

variable {a b c e k u key : Text} {ds : List Datum} {ms : List (Text × Datum)}

theorem reads_word {w : String} (known : (w, d) ∈ words) : (Part.value d).Reads (Text.ofString w) := by
  intro fuel depth rest enough deep trails
  have read := atom_word known rest
  obtain ⟨c, u, front, -, other, -⟩ := exists_front_word known
  rw [front] at read enough ⊢
  obtain ⟨fuel, rfl⟩ := exists_fuel (by simp) enough
  exact (value_eq_atom true fuel depth other).trans read

theorem reads_number {negative : Bool} (number : Number negative t d) :
    (Part.value d).Reads (sign negative ++ t) := by
  intro fuel depth rest enough deep trails
  have read := (atom_number number rest).trans (number.number_append trails)
  obtain ⟨c, u, rfl, isDigit⟩ := number.exists_digit
  obtain ⟨fuel, rfl⟩ := exists_fuel (by simp) enough
  cases negative with
  | true => exact (value_eq_atom true fuel depth (by decide)).trans read
  | false =>
    refine (value_eq_atom true fuel depth fun mem => ?_).trans read
    have none : ∀ x ∈ ['"', '[', '{'], x.isDigit = false := by simp
    exact absurd isDigit (by simp [none c mem])

theorem reads_string {text : Text} (quotes : Quotes t text) :
    (Part.value (.text text)).Reads (.char '"' :: (t ++ [.char '"'])) := by
  rintro (_ | fuel) depth rest enough deep trails
  · simp at enough
  have shape : .char '"' :: (t ++ [.char '"']) ++ rest = .char '"' :: (t ++ .char '"' :: rest) := by simp
  rw [shape, value, string_eq_ok_iff.2 ⟨_, rfl, quotes⟩]
  rfl

theorem reads_lastItem (before : Blanks a) (spelled : Derives (.value d) t) (behind : Blanks b)
    (reads : (Part.value d).Reads t) : (Part.items [d]).Reads (a ++ t ++ b) := by
  rintro (_ | fuel) depth rest enough deep
  · simp at enough
  simp only [List.length_append] at enough deep
  have read := reads fuel depth (b ++ .char ']' :: rest) (by omega) (by omega)
    (trails_append behind (by simp) rest)
  rw [List.append_assoc, skip_value before spelled, items, read]
  simp only [bind, Except.bind, behind.skip_append, skip_char (c := ']') rfl]
  rfl

theorem reads_nextItem (before : Blanks a) (spelled : Derives (.value d) t) (behind : Blanks b)
    (reads : (Part.value d).Reads t) (readsRest : (Part.items ds).Reads u) :
    (Part.items (d :: ds)).Reads (a ++ t ++ b ++ .char ',' :: u) := by
  rintro (_ | fuel) depth rest enough deep
  · simp at enough
  simp only [List.length_append, List.length_cons] at enough deep
  have read := reads fuel depth (b ++ .char ',' :: (u ++ .char ']' :: rest)) (by omega) (by omega)
    (trails_append behind (by simp) _)
  have others := readsRest fuel depth rest (by omega) (by omega)
  have shape : a ++ t ++ b ++ .char ',' :: u ++ .char ']' :: rest =
      a ++ t ++ (b ++ .char ',' :: (u ++ .char ']' :: rest)) := by simp
  rw [shape, skip_value before spelled, items, read]
  simp only [bind, Except.bind, behind.skip_append, skip_char (c := ',') rfl, others]
  rfl

theorem reads_noItems (blanks : Blanks a) : (Part.array []).Reads (.char '[' :: (a ++ [.char ']'])) := by
  rintro (_ | fuel) (_ | depth) rest enough deep
  · simp at enough
  · simp at enough
  · simp at deep
  have shape : .char '[' :: (a ++ [.char ']']) ++ rest = .char '[' :: (a ++ .char ']' :: rest) := by simp
  have closed : skip (a ++ .char ']' :: rest) = .char ']' :: rest := by
    rw [blanks.skip_append, skip_char rfl]
  rw [shape, value]
  simp only [closed]

theorem reads_brackets (spelled : Derives (.items ds) t) (reads : (Part.items ds).Reads t) :
    (Part.array ds).Reads (.char '[' :: (t ++ [.char ']'])) := by
  rintro (_ | fuel) (_ | depth) rest enough deep
  · simp at enough
  · simp at enough
  · simp at deep
  simp only [List.length_append, List.length_cons, List.length_nil] at enough deep
  have read := reads fuel depth rest (by omega) (by omega)
  obtain ⟨c, u, front, apart⟩ := exists_front_items spelled (.char ']' :: rest)
  have shape : .char '[' :: (t ++ [.char ']']) ++ rest = .char '[' :: (t ++ .char ']' :: rest) := by simp
  rw [front] at read
  rw [shape, value]
  simp only [front]
  split
  · next same => exact absurd (Symbol.char.inj (List.cons.inj same).1) apart
  · rw [read]
    rfl

theorem reads_lastMember (before : Blanks a) (quotes : Quotes k key) (left : Blanks b) (right : Blanks c)
    (spelled : Derives (.value d) t) (behind : Blanks e) (reads : (Part.value d).Reads t) :
    (Part.members [(key, d)]).Reads
      (a ++ .char '"' :: (k ++ .char '"' :: (b ++ .char ':' :: (c ++ t ++ e)))) := by
  rintro (_ | fuel) depth rest enough deep
  · simp at enough
  simp only [List.length_append, List.length_cons] at enough deep
  have read := reads fuel depth (e ++ .char '}' :: rest) (by omega) (by omega)
    (trails_append behind (by simp) rest)
  have shape : a ++ .char '"' :: (k ++ .char '"' :: (b ++ .char ':' :: (c ++ t ++ e))) ++
      .char '}' :: rest = a ++ .char '"' :: (k ++ .char '"' ::
        (b ++ .char ':' :: (c ++ t ++ (e ++ .char '}' :: rest)))) := by simp
  rw [shape, before.skip_append, skip_char rfl, members, string_eq_ok_iff.2 ⟨_, rfl, quotes⟩]
  simp only [bind, Except.bind, left.skip_append, skip_char (c := ':') rfl,
    skip_value right spelled, read, behind.skip_append, skip_char (c := '}') rfl]
  rfl

theorem reads_nextMember (before : Blanks a) (quotes : Quotes k key) (left : Blanks b) (right : Blanks c)
    (spelled : Derives (.value d) t) (behind : Blanks e) (reads : (Part.value d).Reads t)
    (readsRest : (Part.members ms).Reads u) :
    (Part.members ((key, d) :: ms)).Reads
      (a ++ .char '"' :: (k ++ .char '"' :: (b ++ .char ':' :: (c ++ t ++ e ++ .char ',' :: u)))) := by
  rintro (_ | fuel) depth rest enough deep
  · simp at enough
  simp only [List.length_append, List.length_cons] at enough deep
  have read := reads fuel depth (e ++ .char ',' :: (u ++ .char '}' :: rest)) (by omega) (by omega)
    (trails_append behind (by simp) _)
  have others := readsRest fuel depth rest (by omega) (by omega)
  have shape : a ++ .char '"' :: (k ++ .char '"' ::
        (b ++ .char ':' :: (c ++ t ++ e ++ .char ',' :: u))) ++ .char '}' :: rest =
      a ++ .char '"' :: (k ++ .char '"' :: (b ++ .char ':' ::
        (c ++ t ++ (e ++ .char ',' :: (u ++ .char '}' :: rest))))) := by simp
  rw [shape, before.skip_append, skip_char rfl, members, string_eq_ok_iff.2 ⟨_, rfl, quotes⟩]
  simp only [bind, Except.bind, left.skip_append, skip_char (c := ':') rfl,
    skip_value right spelled, read, behind.skip_append, skip_char (c := ',') rfl, others]
  rfl

theorem reads_noMembers (blanks : Blanks a) :
    (Part.object []).Reads (.char '{' :: (a ++ [.char '}'])) := by
  rintro (_ | fuel) (_ | depth) rest enough deep
  · simp at enough
  · simp at enough
  · simp at deep
  have shape : .char '{' :: (a ++ [.char '}']) ++ rest = .char '{' :: (a ++ .char '}' :: rest) := by simp
  have closed : skip (a ++ .char '}' :: rest) = .char '}' :: rest := by
    rw [blanks.skip_append, skip_char rfl]
  rw [shape, value]
  simp only [closed]
  rfl

theorem reads_braces (spelled : Derives (.members ms) t) (reads : (Part.members ms).Reads t) :
    (Part.object ms).Reads (.char '{' :: (t ++ [.char '}'])) := by
  rintro (_ | fuel) (_ | depth) rest enough deep
  · simp at enough
  · simp at enough
  · simp at deep
  simp only [List.length_append, List.length_cons, List.length_nil] at enough deep
  have read := reads fuel depth rest (by omega) (by omega)
  obtain ⟨u, front⟩ := exists_front_members spelled (.char '}' :: rest)
  have shape : .char '{' :: (t ++ [.char '}']) ++ rest = .char '{' :: (t ++ .char '}' :: rest) := by simp
  rw [front] at read
  rw [shape, value]
  simp only [front]
  split
  · next same => exact absurd (List.cons.inj same).1 (by decide)
  · rw [read, ← foldl_insert_eq]
    rfl

end

/-- What is spelled is read. -/
theorem reads_of_derives {p : Part} (spelled : Derives p t) : p.Reads t := by
  induction spelled with
  | word known => exact reads_word known
  | number number => exact reads_number number
  | string quotes => exact reads_string quotes
  | list array ih => exact fun fuel depth rest enough deep _ => ih fuel depth rest enough deep
  | map object ih => exact fun fuel depth rest enough deep _ => ih fuel depth rest enough deep
  | lastItem before value behind ih => exact reads_lastItem before value behind ih
  | nextItem before value behind _ ih ihs => exact reads_nextItem before value behind ih ihs
  | noItems blanks => exact reads_noItems blanks
  | brackets items ih => exact reads_brackets items ih
  | lastMember before quotes left right value behind ih =>
    exact reads_lastMember before quotes left right value behind ih
  | nextMember before quotes left right value behind _ ih ihs =>
    exact reads_nextMember before quotes left right value behind ih ihs
  | noMembers blanks => exact reads_noMembers blanks
  | braces members ih => exact reads_braces members ih

/-! ### What is read is spelled -/

theorem exists_of_atom (read : atom s = .ok (d, rest)) : ∃ t, s = t ++ rest ∧ Derives (.value d) t := by
  unfold atom at read
  split at read
  · next found known =>
    obtain rfl := Except.ok.inj read
    obtain ⟨⟨w, d'⟩, mem, taken⟩ := List.exists_of_findSome?_eq_some known
    obtain ⟨after, front, same⟩ := Option.map_eq_some_iff.1 taken
    obtain ⟨rfl, rfl⟩ := Prod.mk.inj same
    exact ⟨_, word?_eq_some_iff.1 front, .word mem⟩
  · split at read
    · obtain ⟨t, rfl, number⟩ := exists_of_number read
      exact ⟨sign true ++ t, rfl, .number number⟩
    · obtain ⟨t, rfl, number⟩ := exists_of_number read
      exact ⟨sign false ++ t, rfl, .number number⟩

/-- Blanks in front of items belong to the first one. -/
theorem Derives.items_behind {a : Text} {ds : List Datum} (before : Blanks a)
    (spelled : Derives (.items ds) t) : Derives (.items ds) (a ++ t) := by
  cases spelled with
  | lastItem before' value behind =>
    have whole := Derives.lastItem (before.append before') value behind
    simpa using whole
  | nextItem before' value behind rest =>
    have whole := Derives.nextItem (before.append before') value behind rest
    simpa using whole

theorem Derives.members_behind {a : Text} {ms : List (Text × Datum)} (before : Blanks a)
    (spelled : Derives (.members ms) t) : Derives (.members ms) (a ++ t) := by
  cases spelled with
  | lastMember before' quotes left right value behind =>
    have whole := Derives.lastMember (before.append before') quotes left right value behind
    simpa using whole
  | nextMember before' quotes left right value behind rest =>
    have whole := Derives.nextMember (before.append before') quotes left right value behind rest
    simpa using whole

/-- What the parser reads with some fuel is spelled by what it has taken. -/
structure Faithful (fuel : Nat) : Prop where
  value : ∀ {depth : Nat} {s rest : Text} {d : Datum}, Json.value true fuel depth s = .ok (d, rest) →
    ∃ t, s = t ++ rest ∧ Derives (.value d) t
  items : ∀ {depth : Nat} {s rest : Text} {ds : List Datum},
    Json.items true fuel depth s = .ok (ds, rest) →
      ∃ t, s = t ++ .char ']' :: rest ∧ Derives (.items ds) t
  members : ∀ {depth : Nat} {s rest : Text} {ms : List (Text × Datum)},
    Json.members true fuel depth s = .ok (ms, rest) →
      ∃ t, s = t ++ .char '}' :: rest ∧ Derives (.members ms) t

section

variable {fuel depth : Nat} (faithful : Faithful fuel)
include faithful

theorem Faithful.value_next (read : Json.value true (fuel + 1) depth s = .ok (d, rest)) :
    ∃ t, s = t ++ rest ∧ Derives (.value d) t := by
  unfold Json.value at read
  split at read
  · next inner =>
    obtain ⟨⟨text, after⟩, done, same⟩ := exists_of_map_eq_ok read
    obtain ⟨rfl, rfl⟩ := Prod.mk.inj same
    obtain ⟨t, rfl, quotes⟩ := string_eq_ok_iff.1 done
    exact ⟨_, by simp, .string quotes⟩
  · next inner =>
    obtain ⟨a, blanks, front⟩ := exists_skip inner
    split at read
    · exact absurd read (by simp)
    · split at read
      · next closed =>
        obtain ⟨rfl, rfl⟩ := Prod.mk.inj (Except.ok.inj read)
        rw [closed] at front
        exact ⟨_, by simp [front], .list (.noItems blanks)⟩
      · obtain ⟨⟨ds, after⟩, done, same⟩ := exists_of_map_eq_ok read
        obtain ⟨rfl, rfl⟩ := Prod.mk.inj same
        obtain ⟨t, taken, spelled⟩ := faithful.items done
        rw [taken] at front
        exact ⟨_, by simp [front], .list (.brackets (spelled.items_behind blanks))⟩
  · next inner =>
    obtain ⟨a, blanks, front⟩ := exists_skip inner
    split at read
    · exact absurd read (by simp)
    · split at read
      · next closed =>
        obtain ⟨rfl, rfl⟩ := Prod.mk.inj (Except.ok.inj read)
        rw [closed] at front
        exact ⟨_, by simp [front], .map (.noMembers blanks)⟩
      · obtain ⟨⟨ms, after⟩, done, same⟩ := exists_of_map_eq_ok read
        obtain ⟨rfl, rfl⟩ := Prod.mk.inj same
        obtain ⟨t, taken, spelled⟩ := faithful.members done
        rw [taken] at front
        rw [foldl_insert_eq]
        exact ⟨_, by simp [front], .map (.braces (spelled.members_behind blanks))⟩
  · exact exists_of_atom read

theorem Faithful.items_next {ds : List Datum}
    (read : Json.items true (fuel + 1) depth s = .ok (ds, rest)) :
    ∃ t, s = t ++ .char ']' :: rest ∧ Derives (.items ds) t := by
  rw [Json.items] at read
  obtain ⟨⟨d, after⟩, first, more⟩ := exists_of_bind_eq_ok read
  obtain ⟨t, rfl, spelled⟩ := faithful.value first
  obtain ⟨b, behind, front⟩ := exists_skip after
  dsimp only at more
  split at more
  · next closed =>
    obtain ⟨rfl, rfl⟩ := Prod.mk.inj (Except.ok.inj more)
    rw [closed] at front
    exact ⟨_, by simp [front], .lastItem blanks_nil spelled behind⟩
  · next inner comma =>
    obtain ⟨⟨ds, last⟩, others, more⟩ := exists_of_bind_eq_ok more
    obtain ⟨rfl, rfl⟩ := Prod.mk.inj (Except.ok.inj more)
    obtain ⟨u, taken, items⟩ := faithful.items others
    obtain ⟨c, before, front'⟩ := exists_skip inner
    rw [taken] at front'
    rw [comma, front'] at front
    exact ⟨_, by simp [front], .nextItem blanks_nil spelled behind (items.items_behind before)⟩
  · exact absurd more (by simp)

theorem Faithful.members_next {ms : List (Text × Datum)}
    (read : Json.members true (fuel + 1) depth s = .ok (ms, rest)) :
    ∃ t, s = t ++ .char '}' :: rest ∧ Derives (.members ms) t := by
  unfold Json.members at read
  split at read
  · next inside =>
    obtain ⟨⟨key, behindKey⟩, quoted, more⟩ := exists_of_bind_eq_ok read
    obtain ⟨k, rfl, quotes⟩ := string_eq_ok_iff.1 quoted
    obtain ⟨b, left, frontColon⟩ := exists_skip behindKey
    dsimp only at more
    split at more
    · next behindColon colon =>
      rw [colon] at frontColon
      obtain ⟨⟨d, after⟩, first, more⟩ := exists_of_bind_eq_ok more
      obtain ⟨c, right, frontValue⟩ := exists_skip behindColon
      obtain ⟨t, taken, spelled⟩ := faithful.value first
      rw [taken] at frontValue
      obtain ⟨e, behind, front⟩ := exists_skip after
      dsimp only at more
      split at more
      · next closed =>
        obtain ⟨rfl, rfl⟩ := Prod.mk.inj (Except.ok.inj more)
        rw [closed] at front
        exact ⟨_, by simp [frontColon, frontValue, front],
          .lastMember blanks_nil quotes left right spelled behind⟩
      · next inner comma =>
        obtain ⟨⟨ms, last⟩, others, more⟩ := exists_of_bind_eq_ok more
        obtain ⟨rfl, rfl⟩ := Prod.mk.inj (Except.ok.inj more)
        obtain ⟨u, taken', members⟩ := faithful.members others
        obtain ⟨a, before, front'⟩ := exists_skip inner
        rw [taken'] at front'
        rw [comma, front'] at front
        exact ⟨_, by simp [frontColon, frontValue, front],
          .nextMember blanks_nil quotes left right spelled behind (members.members_behind before)⟩
      · exact absurd more (by simp)
    · exact absurd more (by simp)
  · exact absurd read (by simp)

end

theorem faithful (fuel : Nat) : Faithful fuel := by
  induction fuel with
  | zero =>
    refine ⟨fun read => ?_, fun read => ?_, fun read => ?_⟩
    · exact absurd read (by simp [value])
    · exact absurd read (by simp [items])
    · exact absurd read (by simp [members])
  | succ fuel ih => exact ⟨ih.value_next, ih.items_next, ih.members_next⟩

/-- Where nesting is free a text is read exactly if it is a document, and read as the value of it. -/
theorem parse_eq_ok_iff : parse .lenient s = .ok d ↔ Document (.value d) s := by
  constructor
  · intro read
    obtain ⟨⟨d', after⟩, done, read⟩ := exists_of_bind_eq_ok read
    obtain ⟨u, taken, spelled⟩ := (faithful _).value done
    obtain ⟨a, before, front⟩ := exists_skip s
    obtain ⟨b, behind, rest⟩ := exists_skip after
    dsimp only at read
    split at read
    · next none =>
      obtain rfl := Except.ok.inj read
      rw [none, List.append_nil] at rest
      exact ⟨a, u, b, before, spelled, behind, by rw [front, taken, rest, List.append_assoc]⟩
    · exact absurd read (by simp)
  · rintro ⟨a, u, b, before, spelled, behind, rfl⟩
    have trails : Trails b := fun s first => mem_of_isSpace (behind s (List.mem_of_mem_head? first))
    have read := reads_of_derives spelled (2 * (a ++ u ++ b).length + 2) (a ++ u ++ b).length b
      (by simp only [List.length_append]; omega) (by simp only [List.length_append]; omega) trails
    have none : skip b = [] := by rw [← List.append_nil b, behind.skip_append]; rfl
    unfold parse
    rw [skip_value before spelled]
    simp only [Dialect.lenient, Option.getD_none, read, bind, Except.bind, none]
    rfl

end FormatHost.Json
