import FormatHost.Proofs.Config.Spelling
import FormatHost.Proofs.Config.Written
import Mathlib.Data.List.Nodup
/-!
# Written configurations are read again

A map of booleans, integers and texts that was written is read as it was, entry by entry and in order, up
to surrogates that stand side by side: these are joined.
-/
namespace FormatHost

/-- The value as it is read again. -/
def Scalar.paired : Scalar → Scalar
  | .text t => .text t.paired
  | v => v

namespace ConfigMap

/-- The map as it is read again. -/
def paired (m : ConfigMap) : ConfigMap := m.map fun e => (e.1.paired, e.2.paired)

/-- No key and no text of the map holds a low surrogate behind a high one. -/
def Unpaired (m : ConfigMap) : Prop :=
  ∀ e ∈ m, e.1.Unpaired ∧ ∀ t, e.2 = .text t → t.Unpaired

theorem paired_eq_self {m : ConfigMap} (unpaired : m.Unpaired) : m.paired = m := by
  refine (List.map_congr_left fun e mem => ?_).trans (List.map_id m)
  obtain ⟨key, value⟩ := unpaired e mem
  obtain ⟨k, v⟩ := e
  refine Prod.ext (Text.paired_eq_self key) ?_
  cases v with
  | bool b => rfl
  | int n => rfl
  | text t => exact congrArg Scalar.text (Text.paired_eq_self (value t rfl))

end ConfigMap

end FormatHost

namespace FormatHost.Json

/-! ### Numbers -/

/-- What stands behind a value inside a map. -/
def Stops (rest : Text) : Prop := ∃ c after, rest = .char c :: after ∧ (c = ',' ∨ c = '}')

theorem digit?_of_isDigit {c : Char} (isDigit : c.isDigit = true) :
    digit? (.char c) = some (c.toNat - 48) := by
  simp only [Char.isDigit, Bool.and_eq_true, decide_eq_true_eq] at isDigit
  rw [digit?, if_pos ⟨isDigit.1, isDigit.2⟩]

theorem Stops.digits {rest : Text} (stops : Stops rest) : digits rest = ([], rest) := by
  obtain ⟨c, after, rfl, rfl | rfl⟩ := stops <;> rfl

theorem digits_ofChars {cs : List Char} (all : ∀ c ∈ cs, c.isDigit = true) {rest : Text}
    (stops : Stops rest) :
    digits (Text.ofChars cs ++ rest) = (cs.map fun c => c.toNat - 48, rest) := by
  induction cs with
  | nil => exact stops.digits
  | cons c cs ih =>
    have first := digit?_of_isDigit (all c (List.mem_cons_self ..))
    have others := ih fun d mem => all d (List.mem_cons_of_mem _ mem)
    change digits (.char c :: (Text.ofChars cs ++ rest)) = _
    rw [digits, first]
    simp only [others, List.map_cons]

theorem value_toDigits (n : Nat) :
    Numeral.value ((Nat.toDigits 10 n).map fun c => c.toNat - 48) = n := by
  have value : Nat.ofDigitChars 10 (Nat.toDigits 10 n) 0 = n := Nat.ofDigitChars_ten_toDigits
  rw [Nat.ofDigitChars_eq_foldl] at value
  rw [Numeral.value, List.foldl_map]
  exact value

/-- No digit follows a leading zero. -/
theorem head_toDigits {n : Nat} (positive : 0 < n) :
    ∃ c cs, Nat.toDigits 10 n = c :: cs ∧ c.toNat - 48 ≠ 0 := by
  induction n using Nat.strongRecOn with
  | ind n ih =>
    by_cases small : n < 10
    · have all : ∀ k < 10, 0 < k → k.digitChar.toNat - 48 ≠ 0 := by decide
      exact ⟨_, [], Nat.toDigits_of_lt_base small, all n small positive⟩
    · obtain ⟨c, cs, digits, head⟩ := ih (n / 10) (by omega) (by omega)
      rw [Nat.toDigits_of_base_le (by decide) (by omega), digits]
      exact ⟨c, _, rfl, head⟩

theorem Stops.numberFrom {rest : Text} (stops : Stops rest) (negative : Bool) {whole : List Nat}
    (short : whole.length ≤ Numeral.digitLimit) :
    numberFrom negative whole rest =
      .ok (.int (if negative then -(Numeral.value whole : Int) else Numeral.value whole), rest) := by
  have short := Nat.not_lt.2 short
  obtain ⟨c, after, rfl, rfl | rfl⟩ := stops
  · simp only [Json.numberFrom, fraction?, exponent?]
    rw [if_neg short]
    rfl
  · simp only [Json.numberFrom, fraction?, exponent?]
    rw [if_neg short]
    rfl

/-- Digits as they are written are read together. -/
theorem number_eq_numberFrom (negative : Bool) (n : Nat) {rest : Text} (stops : Stops rest) :
    number negative (Text.ofChars (Nat.toDigits 10 n) ++ rest) =
      numberFrom negative ((Nat.toDigits 10 n).map fun c => c.toNat - 48) rest := by
  have all : ∀ c ∈ Nat.toDigits 10 n, c.isDigit = true := fun c mem =>
    Nat.isDigit_of_mem_toDigits (by decide) (by decide) mem
  rw [Json.number, digits_ofChars all stops]
  rcases Nat.eq_zero_or_pos n with rfl | positive
  · rfl
  · obtain ⟨c, cs, digits, head⟩ := head_toDigits positive
    rw [digits, List.map_cons]
    cases cs with
    | nil => rfl
    | cons d ds =>
      simp only [List.map_cons]
      split
      · next same => simp at same
      · next same => simp at same
      · next same =>
        obtain ⟨⟨zero, -⟩, -⟩ := Prod.mk.inj same |>.imp_left List.cons.inj
        exact absurd zero head
      · next same =>
        obtain ⟨rfl, rfl⟩ := Prod.mk.inj same
        rfl

/-- The digits of a number are read as this number. -/
theorem number_toDigits (negative : Bool) {n : Nat} (short : (Nat.toDigits 10 n).length ≤ 4300)
    {rest : Text} (stops : Stops rest) :
    number negative (Text.ofChars (Nat.toDigits 10 n) ++ rest) =
      .ok (.int (if negative then -(n : Int) else n), rest) := by
  have limit : ((Nat.toDigits 10 n).map fun c => c.toNat - 48).length ≤ Numeral.digitLimit := by
    rwa [List.length_map]
  rw [number_eq_numberFrom negative n stops, stops.numberFrom negative limit, value_toDigits]

/-! ### Values -/

/-- A text that opens no string and no container is a word or a number. -/
theorem value_eq_atom (lone : Bool) (fuel depth : Nat) {c : Char} {rest : Text}
    (other : c ∉ ['"', '[', '{']) :
    value lone (fuel + 1) depth (.char c :: rest) = atom (.char c :: rest) := by
  simp only [List.mem_cons, List.not_mem_nil, or_false, not_or] at other
  rw [value]
  · exact fun _ same => other.1 (Symbol.char.inj (List.cons.inj same).1)
  · exact fun _ same => other.2.1 (Symbol.char.inj (List.cons.inj same).1)
  · exact fun _ same => other.2.2 (Symbol.char.inj (List.cons.inj same).1)

theorem atom_digit {c : Char} (isDigit : c.isDigit = true) (rest : Text) :
    atom (.char c :: rest) = number false (.char c :: rest) := by
  have other (d : Char) (letter : d.isDigit = false) : (d == c) = false := by
    rw [beq_eq_false_iff_ne]
    rintro rfl
    simp [letter] at isDigit
  have sign : c ≠ '-' := by
    rintro rfl
    exact absurd isDigit (by decide)
  rw [atom, List.findSome?_eq_none_iff.2 (by
    simp [words, word?, other 'n' rfl, other 't' rfl, other 'f' rfl, other 'N' rfl, other 'I' rfl,
      other '-' rfl])]
  exact fun _ same => sign (Symbol.char.inj (List.cons.inj same).1)

theorem atom_minus {c : Char} (isDigit : c.isDigit = true) (rest : Text) :
    atom (.char '-' :: .char c :: rest) = number true (.char c :: rest) := by
  have letter : ('I' == c) = false := by
    rw [beq_eq_false_iff_ne]
    rintro rfl
    simp at isDigit
  rw [atom, List.findSome?_eq_none_iff.2 (by simp [words, word?, letter])]

/-- The written form of an integer: its digits, behind a sign if it is negative. -/
theorem toList_toString (n : Int) :
    (toString n).toList = match n with
      | .ofNat k => Nat.toDigits 10 k
      | .negSucc k => '-' :: Nat.toDigits 10 (k + 1) := by
  cases n with
  | ofNat k => exact Nat.toList_repr
  | negSucc k =>
    change ("-" ++ Nat.repr (k + 1)).toList = _
    rw [String.toList_append, Nat.toList_repr]
    rfl

/-- A number opens with a digit. -/
theorem exists_toDigits (n : Nat) : ∃ c cs, Nat.toDigits 10 n = c :: cs ∧ c.isDigit = true := by
  obtain ⟨c, cs, digits⟩ := List.exists_cons_of_ne_nil (Nat.toDigits_ne_nil (n := n) (b := 10))
  exact ⟨c, cs, digits,
    Nat.isDigit_of_mem_toDigits (by decide) (by decide) (digits ▸ List.mem_cons_self ..)⟩

theorem value_int {n : Int} (short : (toString n.natAbs).length ≤ 4300) (fuel depth : Nat)
    {rest : Text} (stops : Stops rest) :
    value true (fuel + 1) depth (Text.ofChars (toString n).toList ++ rest) = .ok (.int n, rest) := by
  have short : (Nat.toDigits 10 n.natAbs).length ≤ 4300 := by
    rw [← Nat.toList_repr]
    exact short
  obtain ⟨c, cs, digits, isDigit⟩ := exists_toDigits n.natAbs
  have plain : c ∉ ['"', '[', '{'] := by
    intro mem
    have none : ∀ d ∈ ['"', '[', '{'], d.isDigit = false := by simp
    exact absurd isDigit (by simp [none c mem])
  rw [toList_toString]
  cases n with
  | ofNat k =>
    have read := number_toDigits false short stops
    change number false (Text.ofChars (Nat.toDigits 10 k) ++ rest) = _ at read
    change Nat.toDigits 10 k = c :: cs at digits
    rw [digits] at read
    simp only [digits]
    change value true (fuel + 1) depth (.char c :: (Text.ofChars cs ++ rest)) = _
    rw [value_eq_atom _ _ _ plain, atom_digit isDigit]
    exact read
  | negSucc k =>
    have read := number_toDigits true short stops
    change number true (Text.ofChars (Nat.toDigits 10 (k + 1)) ++ rest) = _ at read
    change Nat.toDigits 10 (k + 1) = c :: cs at digits
    rw [digits] at read
    simp only [digits]
    change value true (fuel + 1) depth (.char '-' :: .char c :: (Text.ofChars cs ++ rest)) = _
    rw [value_eq_atom _ _ _ (by decide), atom_minus isDigit]
    exact read

/-- A written scalar is read as it was. -/
theorem value_scalar {v : Scalar} {cs : List Char} (printed : printValue v.toDatum = .ok cs)
    (fuel depth : Nat) {rest : Text} (stops : Stops rest) :
    value true (fuel + 1) depth (Text.ofChars cs ++ rest) = .ok (v.paired.toDatum, rest) := by
  cases v with
  | bool b =>
    rw [Scalar.toDatum, printValue] at printed
    obtain rfl := Except.ok.inj printed
    cases b <;> rfl
  | int n =>
    rw [Scalar.toDatum, printValue, intText] at printed
    split at printed
    · simp at printed
    · next short =>
      obtain rfl := Except.ok.inj printed
      exact value_int (Nat.not_lt.1 short) fuel depth stops
  | text t =>
    rw [Scalar.toDatum, printValue] at printed
    obtain rfl := Except.ok.inj printed
    have shape : Text.ofChars (quoted t) ++ rest =
        .char '"' :: (Text.ofChars (t.flatMap escape) ++ .char '"' :: rest) := by
      simp [quoted, Text.ofChars]
    rw [shape, value, string_written]
    rfl

/-- What is read is written in the same way again. -/
theorem printValue_paired (v : Scalar) : printValue v.paired.toDatum = printValue v.toDatum := by
  cases v with
  | bool b => rfl
  | int n => rfl
  | text t => rw [Scalar.paired, Scalar.toDatum, Scalar.toDatum, printValue, printValue, quoted_paired]

theorem skip_char {c : Char} (solid : isSpace (.char c) = false) (rest : Text) :
    skip (.char c :: rest) = .char c :: rest := by
  rw [skip, List.dropWhile_cons_of_neg (by simp [solid])]

theorem isSpace_of_isDigit {c : Char} (isDigit : c.isDigit = true) : isSpace (.char c) = false := by
  have other (d : Char) (space : d.isDigit = false) : (c == d) = false := by
    rw [beq_eq_false_iff_ne]
    rintro rfl
    simp [space] at isDigit
  simp [isSpace, other ' ' rfl, other '\t' rfl, other '\n' rfl, other '\r' rfl]

/-- No blank opens a written scalar. -/
theorem skip_scalar {v : Scalar} {cs : List Char} (printed : printValue v.toDatum = .ok cs)
    (rest : Text) : skip (Text.ofChars cs ++ rest) = Text.ofChars cs ++ rest := by
  cases v with
  | bool b =>
    rw [Scalar.toDatum, printValue] at printed
    obtain rfl := Except.ok.inj printed
    cases b <;> rfl
  | int n =>
    rw [Scalar.toDatum, printValue, intText] at printed
    split at printed
    · simp at printed
    obtain rfl := Except.ok.inj printed
    rw [toList_toString]
    cases n with
    | ofNat k =>
      obtain ⟨c, cs, digits, isDigit⟩ := exists_toDigits k
      simp only [digits]
      exact skip_char (isSpace_of_isDigit isDigit) _
    | negSucc k => exact skip_char rfl _
  | text t =>
    rw [Scalar.toDatum, printValue] at printed
    obtain rfl := Except.ok.inj printed
    exact skip_char rfl _

/-! ### Maps -/

/-- The key of a member is read, and what follows its colon is read as a value. -/
theorem members_key (k : Text) (fuel depth : Nat) (rest : Text) :
    members true (fuel + 1) depth (Text.ofChars (quoted k) ++ .char ':' :: rest) = (do
      let (d, rest) ← value true fuel depth (skip rest)
      match skip rest with
      | .char '}' :: rest => return ([(k.paired, d)], rest)
      | .char ',' :: rest => do
        let (entries, rest) ← members true fuel depth (skip rest)
        return ((k.paired, d) :: entries, rest)
      | _ => .error .malformed) := by
  have shape : Text.ofChars (quoted k) ++ .char ':' :: rest =
      .char '"' :: (Text.ofChars (k.flatMap escape) ++ .char '"' :: .char ':' :: rest) := by
    simp [quoted, Text.ofChars]
  rw [shape, members, string_written]
  rfl

section

variable {k : Text} {v : Scalar} {cs : List Char} (printed : printValue v.toDatum = .ok cs)
  (fuel depth : Nat) (rest : Text)
include printed

/-- The last member of a map is read. -/
theorem members_last :
    members true (fuel + 2) depth (Text.ofChars (quoted k ++ ':' :: cs) ++ .char '}' :: rest) =
      .ok ([(k.paired, v.paired.toDatum)], rest) := by
  have shape : Text.ofChars (quoted k ++ ':' :: cs) ++ .char '}' :: rest =
      Text.ofChars (quoted k) ++ .char ':' :: (Text.ofChars cs ++ .char '}' :: rest) := by
    simp [Text.ofChars]
  have valued := value_scalar printed fuel depth ⟨'}', rest, rfl, .inr rfl⟩
  have brace : skip (.char '}' :: rest) = .char '}' :: rest := skip_char rfl rest
  rw [shape, members_key, skip_scalar printed, valued]
  simp only [bind, Except.bind, brace]
  rfl

/-- A member of a map is read, and reading goes on behind its comma. -/
theorem members_next :
    members true (fuel + 2) depth (Text.ofChars (quoted k ++ ':' :: cs) ++ .char ',' :: rest) = do
      let (entries, rest) ← members true (fuel + 1) depth (skip rest)
      return ((k.paired, v.paired.toDatum) :: entries, rest) := by
  have shape : Text.ofChars (quoted k ++ ':' :: cs) ++ .char ',' :: rest =
      Text.ofChars (quoted k) ++ .char ':' :: (Text.ofChars cs ++ .char ',' :: rest) := by
    simp [Text.ofChars]
  have valued := value_scalar printed fuel depth ⟨',', rest, rfl, .inl rfl⟩
  have comma : skip (.char ',' :: rest) = .char ',' :: rest := skip_char rfl rest
  rw [shape, members_key, skip_scalar printed, valued]
  simp only [bind, Except.bind, comma]

end

/-- The members of a map as they are read. -/
def readable (m : ConfigMap) : List (Text × Datum) := m.map fun e => (e.1, e.2.toDatum)

/-- What written entries are made of. -/
theorem exists_of_printEntries {k : Text} {v : Datum} {es : List (Datum × Datum)} {body : List Char}
    (printed : printEntries ((.text k, v) :: es) = .ok body) :
    ∃ cs, printValue v = .ok cs ∧ (es = [] ∧ body = quoted k ++ ':' :: cs ∨
      ∃ after, es ≠ [] ∧ printEntries es = .ok after ∧ body = quoted k ++ ':' :: cs ++ ',' :: after) := by
  cases es with
  | nil =>
    rw [printEntries_singleton] at printed
    cases valued : printValue v with
    | error f => simp [valued, Except.map] at printed
    | ok cs => exact ⟨cs, rfl, .inl ⟨rfl, by simpa [valued, Except.map] using printed.symm⟩⟩
  | cons e es =>
    rw [printEntries_cons] at printed
    cases valued : printValue v with
    | error f => simp [valued, bind, Except.bind] at printed
    | ok cs =>
      cases others : printEntries (e :: es) with
      | error f => simp [valued, others, bind, Except.bind] at printed
      | ok after =>
        exact ⟨cs, rfl, .inr ⟨after, List.cons_ne_nil _ _, rfl, by
          simpa [valued, others, bind, Except.bind, pure, Except.pure] using printed.symm⟩⟩

/-- Written entries open with a quote. -/
theorem exists_quote {k : Text} {v : Datum} {es : List (Datum × Datum)} {body : List Char}
    (printed : printEntries ((.text k, v) :: es) = .ok body) : ∃ tail, body = '"' :: tail := by
  obtain ⟨cs, -, ⟨-, rfl⟩ | ⟨after, -, -, rfl⟩⟩ := exists_of_printEntries printed
  · exact ⟨_, rfl⟩
  · exact ⟨_, rfl⟩

theorem length_le_printEntries {m : ConfigMap} {body : List Char}
    (printed : printEntries m.toEntries = .ok body) : m.length ≤ body.length := by
  induction m generalizing body with
  | nil => exact Nat.zero_le _
  | cons e m ih =>
    obtain ⟨k, v⟩ := e
    obtain ⟨cs, -, ⟨none, rfl⟩ | ⟨after, -, others, rfl⟩⟩ := exists_of_printEntries printed
    · obtain rfl : m = [] := List.map_eq_nil_iff.1 none
      simp [quoted]
    · have rest := ih others
      simp [quoted]
      omega

/-- Written entries are read as they were. -/
theorem members_written (e : Text × Scalar) (m : ConfigMap) {body : List Char}
    (printed : printEntries (ConfigMap.toEntries (e :: m)) = .ok body) {fuel : Nat}
    (enough : m.length + 2 ≤ fuel) (depth : Nat) (rest : Text) :
    members true fuel depth (Text.ofChars body ++ .char '}' :: rest) =
      .ok (readable (ConfigMap.paired (e :: m)), rest) := by
  obtain ⟨k, v⟩ := e
  obtain ⟨fuel, rfl⟩ : ∃ n, fuel = n + 2 := ⟨fuel - 2, by omega⟩
  induction m generalizing k v body fuel with
  | nil =>
    obtain ⟨cs, valued, ⟨-, rfl⟩ | ⟨after, more, -⟩⟩ := exists_of_printEntries printed
    · exact members_last valued fuel depth rest
    · exact absurd rfl more
  | cons e m ih =>
    obtain ⟨k₂, v₂⟩ := e
    obtain ⟨cs, valued, ⟨none, -⟩ | ⟨after, -, others, rfl⟩⟩ := exists_of_printEntries printed
    · simp at none
    · obtain ⟨fuel, rfl⟩ : ∃ n, fuel = n + 1 := ⟨fuel - 1, by
        simp only [List.length_cons] at enough
        omega⟩
      have readRest := ih k₂ v₂ others fuel (by
        simp only [List.length_cons] at enough
        omega)
      have shape : Text.ofChars (quoted k ++ ':' :: cs ++ ',' :: after) ++ .char '}' :: rest =
          Text.ofChars (quoted k ++ ':' :: cs) ++
            .char ',' :: (Text.ofChars after ++ .char '}' :: rest) := by
        simp [Text.ofChars]
      have solid : skip (Text.ofChars after ++ .char '}' :: rest) =
          Text.ofChars after ++ .char '}' :: rest := by
        obtain ⟨tail, rfl⟩ := exists_quote others
        exact skip_char rfl _
      rw [shape, members_next valued, solid, readRest]
      rfl

/-- Entries with different keys are kept as they come. -/
theorem foldl_insert (es : List (Text × Datum)) (before : List (Datum × Datum))
    (distinct : (es.map Prod.fst).Nodup)
    (fresh : ∀ e ∈ es, ∀ b ∈ before, b.1.sameKey (.text e.1) = false) :
    es.foldl (fun m (k, d) => Datum.insert m (.text k) d) before =
      before ++ es.map fun e => (.text e.1, e.2) := by
  have appended (bs : List (Datum × Datum)) (k : Text) (d : Datum)
      (new : ∀ b ∈ bs, b.1.sameKey (.text k) = false) :
      Datum.insert bs (.text k) d = bs ++ [(.text k, d)] := by
    induction bs with
    | nil => rfl
    | cons b bs ih =>
      rw [Datum.insert, new b (List.mem_cons_self ..), ih fun b mem => new b (List.mem_cons_of_mem _ mem)]
      rfl
  induction es generalizing before with
  | nil => simp
  | cons e es ih =>
    obtain ⟨different, rest⟩ := List.nodup_cons.1 distinct
    have first : (match e with | (k, d) => Datum.insert before (.text k) d) =
      before ++ [(.text e.1, e.2)] := appended _ _ _ (fresh e (List.mem_cons_self ..))
    rw [List.foldl_cons, first, ih _ rest]
    · simp
    · intro e' mem b there
      rcases List.mem_append.1 there with there | there
      · exact fresh e' (List.mem_cons_of_mem _ mem) b there
      · obtain rfl := List.mem_singleton.1 there
        have other : e.1 ≠ e'.1 := fun same =>
          different (List.mem_map.2 ⟨e', mem, same.symm⟩)
        simpa [Datum.sameKey, Datum.number?] using other

/-- What is read is written in the same way again. -/
theorem printEntries_paired (m : ConfigMap) :
    printEntries m.paired.toEntries = printEntries m.toEntries := by
  induction m with
  | nil => rfl
  | cons e m ih =>
    obtain ⟨k, v⟩ := e
    cases m with
    | nil =>
      change printEntries [(.text k.paired, v.paired.toDatum)] = printEntries [(.text k, v.toDatum)]
      rw [printEntries_singleton, printEntries_singleton, quoted_paired, printValue_paired]
    | cons f m =>
      change printEntries ((.text k.paired, v.paired.toDatum) :: (.text f.1.paired, f.2.paired.toDatum) ::
        (ConfigMap.paired m).toEntries) = printEntries ((.text k, v.toDatum) ::
        (.text f.1, f.2.toDatum) :: ConfigMap.toEntries m)
      rw [printEntries_cons, printEntries_cons, quoted_paired, printValue_paired]
      exact congrArg _ (funext fun cs => congrArg (· >>= _) ih)

/-- A map that opens with a quote is read by its members. -/
theorem value_map (fuel depth : Nat) (rest : Text) :
    value true (fuel + 1) (depth + 1) (.char '{' :: .char '"' :: rest) =
      (members true fuel depth (.char '"' :: rest)).map fun (entries, rest) =>
        (.map (entries.foldl (fun m (k, d) => Datum.insert m (.text k) d) []), rest) := by
  rw [value, skip_char rfl]
  rfl

/-- A written map is read as it was, unless two of its keys are read as the same. -/
theorem parse_written {m : ConfigMap} {body : List Char} (printed : printEntries m.toEntries = .ok body)
    (distinct : (m.paired.map Prod.fst).Nodup) (room : Nat) :
    parse (.roomy room) (Text.ofChars ('{' :: body ++ ['}'])) = .ok m.paired.toDatum := by
  cases m with
  | nil =>
    rw [ConfigMap.toEntries, List.map_nil, printEntries] at printed
    obtain rfl := Except.ok.inj printed
    rfl
  | cons e m =>
    have most := length_le_printEntries printed
    have shape : Text.ofChars ('{' :: body ++ ['}']) =
        .char '{' :: (Text.ofChars body ++ [.char '}']) := by simp [Text.ofChars]
    have length : (Text.ofChars ('{' :: body ++ ['}'])).length = body.length + 2 := by
      simp [Text.ofChars]
    have enough : m.length + 2 ≤ 2 * (body.length + 2) + 1 := by
      simp only [List.length_cons] at most
      omega
    have read := members_written e m printed enough room []
    have keys : ((readable (ConfigMap.paired (e :: m))).map Prod.fst).Nodup := by
      rw [readable, List.map_map]
      exact distinct
    obtain ⟨tail, rfl⟩ := exists_quote printed
    have entered := value_map (2 * (('"' :: tail).length + 2) + 1) room (Text.ofChars tail ++ [.char '}'])
    change value true _ _ _ = Except.map _ (members true _ _
      (Text.ofChars ('"' :: tail) ++ .char '}' :: [])) at entered
    rw [read] at entered
    have kept := foldl_insert (readable (ConfigMap.paired (e :: m))) [] keys (by simp)
    simp only [Except.map, kept, List.nil_append] at entered
    have opened : skip (Text.ofChars ('{' :: '"' :: tail ++ ['}'])) =
        .char '{' :: (Text.ofChars ('"' :: tail) ++ [.char '}']) := by
      rw [shape]
      exact skip_char rfl _
    have valued : value (Dialect.roomy room).lone (2 * (('"' :: tail).length + 2) + 2)
        ((Dialect.roomy room).depth.getD (('"' :: tail).length + 2))
        (.char '{' :: (Text.ofChars ('"' :: tail) ++ [.char '}'])) = _ := entered
    rw [parse, length, opened, valued]
    change Except.ok (Datum.map _) = _
    simp [readable, ConfigMap.toDatum, ConfigMap.toEntries]

end FormatHost.Json

namespace FormatHost

namespace Text

/-- Bytes that open with a brace and have no zero next are UTF-8. -/
theorem Encoding.detect_brace {b : UInt8} (other : (b == 0) = false) (rest : Bytes) :
    Encoding.detect (0x7B :: b :: rest) = (.utf8, 0x7B :: b :: rest) := by
  have zeros : Encoding.ofZeros (0x7B :: b :: rest) = .utf8 := by
    have brace : ((0x7B : UInt8) == 0) = false := rfl
    rcases rest with _ | ⟨c, _ | ⟨d, rest⟩⟩
    · simp [Encoding.ofZeros, other]
    · rfl
    · simp [Encoding.ofZeros, other]
  rw [Encoding.detect, zeros]
  · simp
  · simp
  · simp
  · simp
  · simp

end Text

namespace ConfigMap

/-- The written form of a map between its braces. -/
theorem exists_of_serialize {m : ConfigMap} {data : Bytes} (written : serialize m.toDatum = .ok data) :
    ∃ body, Json.printEntries m.toEntries = .ok body ∧
      data = Utf8.encodeChars ('{' :: body ++ ['}']) := by
  rw [serialize, Json.configText, orElse_toDatum, toDatum, Json.printValue] at written
  cases printed : Json.printEntries m.toEntries with
  | error f => simp [printed, bind, Except.bind, Except.map] at written
  | ok body =>
    exact ⟨body, rfl, by simpa [printed, bind, Except.bind, pure, Except.pure, Except.map] using
      written.symm⟩

@[simp]
theorem ofDatum?_toDatum (m : ConfigMap) : ofDatum? m.toDatum = some m := by
  induction m with
  | nil => rfl
  | cons e m ih =>
    obtain ⟨k, v⟩ := e
    have rest : (toEntries m).mapM pair? = some m := ih
    have first : pair? (.text k, v.toDatum) = some (k, v) := by
      rw [pair?, Scalar.ofDatum?_toDatum]
      rfl
    change ((.text k, v.toDatum) :: toEntries m).mapM pair? = _
    rw [List.mapM_cons, first, rest]
    rfl

/-- The bytes of a written map are those of its characters. -/
theorem ofBytes?_written {m : ConfigMap} {body : List Char}
    (printed : Json.printEntries m.toEntries = .ok body) :
    Text.ofBytes? (Utf8.encodeChars ('{' :: body ++ ['}'])) =
      some (Text.ofChars ('{' :: body ++ ['}'])) := by
  have detected : Text.Encoding.detect (Utf8.encodeChars ('{' :: body ++ ['}'])) =
      (.utf8, Utf8.encodeChars ('{' :: body ++ ['}'])) := by
    cases m with
    | nil =>
      rw [toEntries, List.map_nil, Json.printEntries] at printed
      obtain rfl := Except.ok.inj printed
      exact Text.Encoding.detect_brace rfl []
    | cons e m =>
      obtain ⟨tail, rfl⟩ := Json.exists_quote printed
      exact Text.Encoding.detect_brace rfl (Utf8.encodeChars (tail ++ ['}']))
  rw [Text.ofBytes?, detected]
  simp only [Utf8.decodeLone_encodeChars]
  rfl

/-- A written map is read as it was, unless two of its keys are read as the same. -/
theorem parse_written {m : ConfigMap} {data : Bytes} (written : serialize m.toDatum = .ok data)
    (distinct : (m.paired.map Prod.fst).Nodup) (room : Nat) : parse room data = .ok m.paired := by
  obtain ⟨body, printed, rfl⟩ := exists_of_serialize written
  rw [parse, ofBytes?_written printed]
  simp only [Json.parse_written printed distinct, ofDatum?_toDatum, Option.getD_some]

theorem serialize_paired (m : ConfigMap) : serialize m.paired.toDatum = serialize m.toDatum := by
  rw [serialize, Json.configText, orElse_toDatum, toDatum, Json.printValue, Json.printEntries_paired,
    serialize, Json.configText, orElse_toDatum, toDatum, Json.printValue]

/-- A map that was written is read as a map that is written in the same way, if its keys are written
in different ways. -/
theorem serialize_parse {m : ConfigMap} {data : Bytes} (written : serialize m.toDatum = .ok data)
    (distinct : (m.map fun e => Json.quoted e.1).Nodup) :
    ∃ read, (∀ room, parse room data = .ok read) ∧ serialize read.toDatum = .ok data ∧
      read.isEmpty = m.isEmpty := by
  have keys : (m.paired.map Prod.fst).Nodup := by
    refine List.Nodup.of_map Json.quoted ?_
    rw [paired, List.map_map, List.map_map]
    simpa only [Function.comp_def, Json.quoted_paired] using distinct
  exact ⟨m.paired, parse_written written keys, (serialize_paired m).trans written,
    by cases m <;> rfl⟩

/-- A map of scalars that was written is read as it was: the same entries in the same order, with values
of the same kinds. No two keys may be the same, no integer may be too long, and no surrogates may form a
pair, as they never do in a string. -/
theorem roundTrip_of_unpaired :
    (∀ m : ConfigMap, (m.map Prod.fst).Nodup → m.Writable → m.Unpaired →
      ∃ data, serialize m.toDatum = .ok data ∧ ∀ room, parse room data = .ok m) ∧
    ∀ s : String, (Text.ofString s).Unpaired := by
  refine ⟨fun m distinct writable unpaired => ?_, Text.unpaired_ofString⟩
  rcases serialize_toDatum m with ⟨-, data, written⟩ | ⟨long, -⟩
  · have same := paired_eq_self unpaired
    have read := parse_written written (by rwa [same])
    rw [same] at read
    exact ⟨data, written, read⟩
  · exact absurd writable long

/-- Truth, the number one and the text of its digit under keys with escapes, a character beyond the basic
plane, and two surrogates that form no pair. -/
def mixed : ConfigMap := [
  (Text.ofString "quote \" and break\n", .bool true),
  ([.char '😀', .surrogate 0x7FF, .surrogate 0], .int 1),
  (Text.ofString "", .text (Text.ofString "1")),
  (Text.ofString "é", .int (-10))]

/-- The general statement for this map. -/
theorem roundTrip_of_mixed :
    (mixed.map Prod.fst).Nodup ∧ mixed.Writable ∧ mixed.Unpaired ∧
      ∃ data, serialize mixed.toDatum = .ok data ∧ ∀ room, parse room data = .ok mixed := by
  have distinct : (mixed.map Prod.fst).Nodup := by decide
  have writable : mixed.Writable := by
    intro e mem
    simp only [mixed, List.mem_cons, List.not_mem_nil, or_false] at mem
    rcases mem with rfl | rfl | rfl | rfl
    · trivial
    · exact show (toString 1).length ≤ 4300 by decide
    · trivial
    · exact show (toString 10).length ≤ 4300 by decide
  have unpaired : mixed.Unpaired := by
    intro e mem
    simp only [mixed, List.mem_cons, List.not_mem_nil, or_false] at mem
    rcases mem with rfl | rfl | rfl | rfl
    · exact ⟨by decide, by rintro t ⟨⟩⟩
    · exact ⟨by decide, by rintro t ⟨⟩⟩
    · exact ⟨by decide, by rintro t ⟨⟩; decide⟩
    · exact ⟨by decide, by rintro t ⟨⟩⟩
  exact ⟨distinct, writable, unpaired, roundTrip_of_unpaired.1 mixed distinct writable unpaired⟩

end ConfigMap

end FormatHost
