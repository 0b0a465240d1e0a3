import FormatHost.Text.Utf8
/-!
# Encoded texts are decoded again

Every text that was encoded as UTF-8 is decoded as the same text, whether lone surrogates are admitted
or not. Where they are not, nothing else is decoded: a text has one encoding.
-/
namespace FormatHost.Utf8

theorem symbol_toNat (c : Char) : symbol c.toNat = .char c := by
  have valid : c.toNat.isValidChar := c.valid
  rw [symbol, Symbol.ofCodePoint?, dif_pos valid]
  rfl

theorem toNat_ofNat {k : Nat} (small : k < 256) : (UInt8.ofNat k).toNat = k :=
  UInt8.toNat_ofNat_of_lt' small

/-- A byte is compared with another one by their numbers. -/
theorem lt_iff {a b : UInt8} : a < b ↔ a.toNat < b.toNat := UInt8.lt_iff_toNat_lt

theorem isContinuation_ofNat (k : Nat) : isContinuation (UInt8.ofNat (0x80 + k % 0x40)) = true := by
  have number : (UInt8.ofNat (0x80 + k % 0x40)).toNat = 0x80 + k % 0x40 := toNat_ofNat (by omega)
  have least : (0x80 : UInt8).toNat = 0x80 := rfl
  have most : (0xC0 : UInt8).toNat = 0xC0 := rfl
  rw [isContinuation, Bool.and_eq_true, decide_eq_true_iff, decide_eq_true_iff, lt_iff,
    UInt8.le_iff_toNat_le, number, least, most]
  omega

theorem low6_ofNat (k : Nat) : low6 (UInt8.ofNat (0x80 + k % 0x40)) = k % 0x40 := by
  rw [low6, toNat_ofNat (by omega)]
  omega

/-- The bounds that the first byte of a sequence is compared with. -/
theorem bounds : (0x80 : UInt8).toNat = 0x80 ∧ (0xC2 : UInt8).toNat = 0xC2 ∧
    (0xE0 : UInt8).toNat = 0xE0 ∧ (0xF0 : UInt8).toNat = 0xF0 ∧ (0xF5 : UInt8).toNat = 0xF5 := by
  decide

/-- The second byte of three never spells a shorter form or a surrogate. -/
theorem admitsSecond3_ofNat (lone : Bool) {n : Nat} (least : 0x800 ≤ n) (most : n < 0x10000)
    (scalar : n < 0xD800 ∨ 0xDFFF < n) :
    admitsSecond3 lone (UInt8.ofNat (0xE0 + n / 0x1000)) (UInt8.ofNat (0x80 + n / 0x40 % 0x40)) =
      true := by
  have first : (UInt8.ofNat (0xE0 + n / 0x1000)).toNat = 0xE0 + n / 0x1000 := toNat_ofNat (by omega)
  have second : (UInt8.ofNat (0x80 + n / 0x40 % 0x40)).toNat = 0x80 + n / 0x40 % 0x40 :=
    toNat_ofNat (by omega)
  have shortest : ¬(UInt8.ofNat (0xE0 + n / 0x1000) = 0xE0 ∧
      UInt8.ofNat (0x80 + n / 0x40 % 0x40) < 0xA0) := by
    rintro ⟨zero, less⟩
    rw [← UInt8.toNat_inj, first] at zero
    rw [lt_iff, second] at less
    simp at zero less
    omega
  have plain : ¬(UInt8.ofNat (0xE0 + n / 0x1000) = 0xED ∧
      0xA0 ≤ UInt8.ofNat (0x80 + n / 0x40 % 0x40)) := by
    rintro ⟨same, more⟩
    rw [← UInt8.toNat_inj, first] at same
    rw [UInt8.le_iff_toNat_le, second] at more
    simp at same more
    omega
  rw [admitsSecond3, isContinuation_ofNat]
  simp only [Bool.true_and, Bool.and_eq_true, Bool.or_eq_true, Bool.not_eq_true',
    Bool.and_eq_false_imp, beq_iff_eq, decide_eq_false_iff_not]
  exact ⟨fun zero less => shortest ⟨zero, less⟩, .inr fun same more => plain ⟨same, more⟩⟩

theorem admitsSecond4_ofNat {n : Nat} (least : 0x10000 ≤ n) (most : n < 0x110000) :
    admitsSecond4 (UInt8.ofNat (0xF0 + n / 0x40000)) (UInt8.ofNat (0x80 + n / 0x1000 % 0x40)) =
      true := by
  have first : (UInt8.ofNat (0xF0 + n / 0x40000)).toNat = 0xF0 + n / 0x40000 := toNat_ofNat (by omega)
  have second : (UInt8.ofNat (0x80 + n / 0x1000 % 0x40)).toNat = 0x80 + n / 0x1000 % 0x40 :=
    toNat_ofNat (by omega)
  have shortest : ¬(UInt8.ofNat (0xF0 + n / 0x40000) = 0xF0 ∧
      UInt8.ofNat (0x80 + n / 0x1000 % 0x40) < 0x90) := by
    rintro ⟨zero, less⟩
    rw [← UInt8.toNat_inj, first] at zero
    rw [lt_iff, second] at less
    simp at zero less
    omega
  have inside : ¬(UInt8.ofNat (0xF0 + n / 0x40000) = 0xF4 ∧
      0x90 ≤ UInt8.ofNat (0x80 + n / 0x1000 % 0x40)) := by
    rintro ⟨same, more⟩
    rw [← UInt8.toNat_inj, first] at same
    rw [UInt8.le_iff_toNat_le, second] at more
    simp at same more
    omega
  rw [admitsSecond4, isContinuation_ofNat]
  simp only [Bool.true_and, Bool.and_eq_true, Bool.not_eq_true', Bool.and_eq_false_imp, beq_iff_eq,
    decide_eq_false_iff_not]
  exact ⟨fun zero less => shortest ⟨zero, less⟩, fun same more => inside ⟨same, more⟩⟩

/-- The first symbol of an encoded text is the one that was encoded first. -/
theorem front_encodeNat (lone : Bool) (c : Char) (rest : Bytes) :
    front lone (encodeNat c.toNat ++ rest) = .ok (.char c, (encodeNat c.toNat).length) := by
  have valid : c.toNat < 0xD800 ∨ 0xDFFF < c.toNat ∧ c.toNat < 0x110000 := c.valid
  obtain ⟨b80, bC2, bE0, bF0, bF5⟩ := bounds
  rw [← symbol_toNat]
  revert valid
  generalize c.toNat = n
  intro valid
  unfold encodeNat
  split
  · have number : (UInt8.ofNat n).toNat = n := toNat_ofNat (by omega)
    simp only [List.cons_append, List.nil_append, front, lt_iff, number, b80]
    rw [if_pos (by omega)]
    rfl
  split
  · have number : (UInt8.ofNat (0xC0 + n / 0x40)).toNat = 0xC0 + n / 0x40 := toNat_ofNat (by omega)
    have whole : 0x40 * ((0xC0 + n / 0x40) % 0x20) + n % 0x40 = n := by omega
    simp only [List.cons_append, List.nil_append, front, lt_iff, number, isContinuation_ofNat,
      low6_ofNat, whole, b80, bC2, bE0]
    rw [if_neg (by omega), if_neg (by omega), if_pos (by omega)]
    rfl
  split
  · have number : (UInt8.ofNat (0xE0 + n / 0x1000)).toNat = 0xE0 + n / 0x1000 :=
      toNat_ofNat (by omega)
    have whole : 0x1000 * ((0xE0 + n / 0x1000) % 0x10) + 0x40 * (n / 0x40 % 0x40) + n % 0x40 = n := by
      omega
    have admits := admitsSecond3_ofNat lone (n := n) (by omega) (by omega) (by omega)
    simp only [List.cons_append, List.nil_append, front, lt_iff, number, isContinuation_ofNat,
      low6_ofNat, whole, admits, b80, bC2, bE0, bF0]
    rw [if_neg (by omega), if_neg (by omega), if_neg (by omega), if_pos (by omega)]
    rfl
  · have number : (UInt8.ofNat (0xF0 + n / 0x40000)).toNat = 0xF0 + n / 0x40000 :=
      toNat_ofNat (by omega)
    have whole : 0x40000 * ((0xF0 + n / 0x40000) % 8) + 0x1000 * (n / 0x1000 % 0x40) +
        0x40 * (n / 0x40 % 0x40) + n % 0x40 = n := by omega
    have admits := admitsSecond4_ofNat (n := n) (by omega) (by omega)
    simp only [List.cons_append, List.nil_append, front, lt_iff, number, isContinuation_ofNat,
      low6_ofNat, whole, admits, b80, bC2, bE0, bF0, bF5]
    rw [if_neg (by omega), if_neg (by omega), if_neg (by omega), if_neg (by omega), if_pos (by omega)]
    rfl

theorem length_encodeNat_pos (n : Nat) : 0 < (encodeNat n).length := by
  unfold encodeNat
  split
  · exact Nat.one_pos
  split
  · exact Nat.two_pos
  split <;> exact Nat.succ_pos _

theorem encodeChars_cons (c : Char) (cs : List Char) :
    encodeChars (c :: cs) = encodeNat c.toNat ++ encodeChars cs := rfl

theorem length_le_encodeChars (cs : List Char) : cs.length ≤ (encodeChars cs).length := by
  induction cs with
  | nil => exact Nat.le_refl 0
  | cons c cs ih =>
    have positive := length_encodeNat_pos c.toNat
    rw [encodeChars_cons, List.length_append, List.length_cons]
    omega

/-- Enough steps decode what was encoded. -/
theorem decodeFrom_encodeChars (lone : Bool) (cs : List Char) (steps position : Nat)
    (enough : cs.length ≤ steps) :
    decodeFrom lone steps position (encodeChars cs) = .ok (Text.ofChars cs) := by
  induction cs generalizing steps position with
  | nil => cases steps <;> rfl
  | cons c cs ih =>
    obtain ⟨steps, rfl⟩ : ∃ k, steps = k + 1 := ⟨steps - 1, by simp at enough; omega⟩
    have first := front_encodeNat lone c (encodeChars cs)
    have rest := ih steps (position + (encodeNat c.toNat).length) (by simpa using enough)
    rw [encodeChars_cons]
    obtain ⟨b, bs, bytes⟩ : ∃ b bs, encodeNat c.toNat = b :: bs :=
      List.exists_cons_of_length_pos (length_encodeNat_pos _)
    rw [bytes] at first rest ⊢
    rw [List.cons_append] at first ⊢
    rw [decodeFrom, first]
    simp only
    rw [← List.cons_append, List.drop_left, rest]
    rfl

theorem decodeLone_encodeChars (cs : List Char) :
    decodeLone (encodeChars cs) = .ok (Text.ofChars cs) :=
  decodeFrom_encodeChars true cs _ 0 (length_le_encodeChars cs)

theorem scalars_ofChars (cs : List Char) : (Text.ofChars cs).scalars = String.ofList cs := by
  simp [Text.scalars, Text.ofChars, List.filterMap_map, Function.comp_def, Symbol.char?]

/-- What was encoded is decoded. -/
theorem decode_encode (text : String) : decode (encode text) = .ok text := by
  rw [decode, encode, decodeFrom_encodeChars false _ _ 0 (length_le_encodeChars _), Except.map,
    scalars_ofChars, String.ofList_toList]

/-! ### Only encodings are decoded -/

/-- A byte is what its number says. -/
theorem eq_ofNat {b : UInt8} {k : Nat} (number : b.toNat = k) : UInt8.ofNat k = b := by
  rw [← number, UInt8.ofNat_toNat]

theorem exists_symbol {n : Nat} (valid : n.isValidChar) :
    ∃ c : Char, symbol n = .char c ∧ c.toNat = n :=
  ⟨Char.ofNatAux n valid, by rw [symbol, Symbol.ofCodePoint?, dif_pos valid]; rfl, rfl⟩

theorem isContinuation_iff {b : UInt8} :
    isContinuation b = true ↔ 0x80 ≤ b.toNat ∧ b.toNat < 0xC0 := by
  have least : (0x80 : UInt8).toNat = 0x80 := rfl
  have most : (0xC0 : UInt8).toNat = 0xC0 := rfl
  rw [isContinuation, Bool.and_eq_true, decide_eq_true_iff, decide_eq_true_iff, lt_iff,
    UInt8.le_iff_toNat_le, least, most]

theorem admitsSecond3_iff {b c : UInt8} : admitsSecond3 false b c = true ↔
    (0x80 ≤ c.toNat ∧ c.toNat < 0xC0) ∧ (b.toNat = 0xE0 → 0xA0 ≤ c.toNat) ∧
      (b.toNat = 0xED → c.toNat < 0xA0) := by
  have bound : (0xA0 : UInt8).toNat = 0xA0 := rfl
  have shortest : b = 0xE0 ↔ b.toNat = 0xE0 := by rw [← UInt8.toNat_inj]; rfl
  have scalar : b = 0xED ↔ b.toNat = 0xED := by rw [← UInt8.toNat_inj]; rfl
  simp only [admitsSecond3, Bool.and_eq_true, isContinuation_iff, Bool.not_eq_true',
    Bool.and_eq_false_imp, beq_iff_eq, decide_eq_false_iff_not, Bool.false_or, shortest, scalar,
    lt_iff, UInt8.le_iff_toNat_le, bound, Nat.not_lt, Nat.not_le, and_assoc]

theorem admitsSecond4_iff {b c : UInt8} : admitsSecond4 b c = true ↔
    (0x80 ≤ c.toNat ∧ c.toNat < 0xC0) ∧ (b.toNat = 0xF0 → 0x90 ≤ c.toNat) ∧
      (b.toNat = 0xF4 → c.toNat < 0x90) := by
  have bound : (0x90 : UInt8).toNat = 0x90 := rfl
  have shortest : b = 0xF0 ↔ b.toNat = 0xF0 := by rw [← UInt8.toNat_inj]; rfl
  have inside : b = 0xF4 ↔ b.toNat = 0xF4 := by rw [← UInt8.toNat_inj]; rfl
  simp only [admitsSecond4, Bool.and_eq_true, isContinuation_iff, Bool.not_eq_true',
    Bool.and_eq_false_imp, beq_iff_eq, decide_eq_false_iff_not, shortest, inside, lt_iff,
    UInt8.le_iff_toNat_le, bound, Nat.not_lt, Nat.not_le, and_assoc]

theorem exists_symbol1 {b : UInt8} (most : b.toNat < 0x80) :
    ∃ c : Char, symbol b.toNat = .char c ∧ encodeNat c.toNat = [b] := by
  obtain ⟨c, spells, number⟩ := exists_symbol (n := b.toNat) (.inl (by omega))
  refine ⟨c, spells, ?_⟩
  rw [number, encodeNat, if_pos most, UInt8.ofNat_toNat]

theorem exists_symbol2 {b c : UInt8} (least : 0xC2 ≤ b.toNat) (most : b.toNat < 0xE0)
    (continues : isContinuation c = true) :
    ∃ x : Char, symbol (0x40 * (b.toNat % 0x20) + low6 c) = .char x ∧
      encodeNat x.toNat = [b, c] := by
  rw [isContinuation_iff] at continues
  obtain ⟨x, spells, number⟩ := exists_symbol (n := 0x40 * (b.toNat % 0x20) + low6 c)
    (.inl (by unfold low6; omega))
  refine ⟨x, spells, ?_⟩
  unfold low6 at number
  have first : UInt8.ofNat (0xC0 + x.toNat / 0x40) = b := eq_ofNat (by omega)
  have second : UInt8.ofNat (0x80 + x.toNat % 0x40) = c := eq_ofNat (by omega)
  rw [encodeNat, if_neg (by omega), if_pos (by omega), first, second]

theorem exists_symbol3 {b c d : UInt8} (least : 0xE0 ≤ b.toNat) (most : b.toNat < 0xF0)
    (admits : admitsSecond3 false b c = true) (continues : isContinuation d = true) :
    ∃ x : Char, symbol (0x1000 * (b.toNat % 0x10) + 0x40 * low6 c + low6 d) = .char x ∧
      encodeNat x.toNat = [b, c, d] := by
  rw [admitsSecond3_iff] at admits
  rw [isContinuation_iff] at continues
  obtain ⟨x, spells, number⟩ := exists_symbol
    (n := 0x1000 * (b.toNat % 0x10) + 0x40 * low6 c + low6 d)
    (by unfold low6 Nat.isValidChar; omega)
  refine ⟨x, spells, ?_⟩
  unfold low6 at number
  have first : UInt8.ofNat (0xE0 + x.toNat / 0x1000) = b := eq_ofNat (by omega)
  have second : UInt8.ofNat (0x80 + x.toNat / 0x40 % 0x40) = c := eq_ofNat (by omega)
  have third : UInt8.ofNat (0x80 + x.toNat % 0x40) = d := eq_ofNat (by omega)
  rw [encodeNat, if_neg (by omega), if_neg (by omega), if_pos (by omega), first, second, third]

theorem exists_symbol4 {b c d e : UInt8} (least : 0xF0 ≤ b.toNat) (most : b.toNat < 0xF5)
    (admits : admitsSecond4 b c = true) (third : isContinuation d = true)
    (fourth : isContinuation e = true) :
    ∃ x : Char,
      symbol (0x40000 * (b.toNat % 8) + 0x1000 * low6 c + 0x40 * low6 d + low6 e) = .char x ∧
        encodeNat x.toNat = [b, c, d, e] := by
  rw [admitsSecond4_iff] at admits
  rw [isContinuation_iff] at third fourth
  obtain ⟨x, spells, number⟩ := exists_symbol
    (n := 0x40000 * (b.toNat % 8) + 0x1000 * low6 c + 0x40 * low6 d + low6 e)
    (by unfold low6 Nat.isValidChar; omega)
  refine ⟨x, spells, ?_⟩
  unfold low6 at number
  have byte1 : UInt8.ofNat (0xF0 + x.toNat / 0x40000) = b := eq_ofNat (by omega)
  have byte2 : UInt8.ofNat (0x80 + x.toNat / 0x1000 % 0x40) = c := eq_ofNat (by omega)
  have byte3 : UInt8.ofNat (0x80 + x.toNat / 0x40 % 0x40) = d := eq_ofNat (by omega)
  have byte4 : UInt8.ofNat (0x80 + x.toNat % 0x40) = e := eq_ofNat (by omega)
  rw [encodeNat, if_neg (by omega), if_neg (by omega), if_neg (by omega), byte1, byte2, byte3,
    byte4]

/-- The first symbol that is read is a scalar value, and what was read is its encoding. -/
theorem of_front {data : Bytes} {s : Symbol} {length : Nat}
    (read : front false data = .ok (s, length)) :
    ∃ c : Char, s = .char c ∧ data = encodeNat c.toNat ++ data.drop length := by
  obtain ⟨b80, bC2, bE0, bF0, bF5⟩ := bounds
  unfold front at read
  simp only [lt_iff, b80, bC2, bE0, bF0, bF5] at read
  split at read
  · simp at read
  next b rest =>
  split at read
  · next one =>
    obtain ⟨rfl, rfl⟩ := by simpa using read
    obtain ⟨c, spells, written⟩ := exists_symbol1 one
    exact ⟨c, spells, by rw [written]; rfl⟩
  split at read
  · simp at read
  next least =>
  split at read
  · next most =>
    split at read
    · simp at read
    split at read
    · next continues =>
      obtain ⟨rfl, rfl⟩ := by simpa using read
      obtain ⟨c, spells, written⟩ := exists_symbol2 (Nat.not_lt.1 least) most continues
      exact ⟨c, spells, by rw [written]; rfl⟩
    · simp at read
  next least =>
  split at read
  · next most =>
    split at read
    · simp at read
    split at read
    · simp at read
    next admits =>
    rw [Bool.not_eq_true', Bool.not_eq_false] at admits
    split at read
    · simp at read
    split at read
    · next continues =>
      obtain ⟨rfl, rfl⟩ := by simpa using read
      obtain ⟨c, spells, written⟩ := exists_symbol3 (Nat.not_lt.1 least) most admits continues
      exact ⟨c, spells, by rw [written]; rfl⟩
    · simp at read
  next least =>
  split at read
  · next most =>
    split at read
    · simp at read
    split at read
    · simp at read
    next admits =>
    rw [Bool.not_eq_true', Bool.not_eq_false] at admits
    split at read
    · simp at read
    split at read
    · simp at read
    next third =>
    rw [Bool.not_eq_true', Bool.not_eq_false] at third
    split at read
    · simp at read
    split at read
    · next fourth =>
      obtain ⟨rfl, rfl⟩ := by simpa using read
      obtain ⟨c, spells, written⟩ :=
        exists_symbol4 (Nat.not_lt.1 least) most admits third fourth
      exact ⟨c, spells, by rw [written]; rfl⟩
    · simp at read
  · simp at read

/-- What is decoded is a text without surrogates, and the bytes are its encoding. -/
theorem of_decodeFrom {steps position : Nat} {data : Bytes} {t : Text}
    (enough : data.length ≤ steps) (decoded : decodeFrom false steps position data = .ok t) :
    ∃ cs, t = Text.ofChars cs ∧ data = encodeChars cs := by
  induction steps generalizing position data t with
  | zero =>
    obtain rfl := List.eq_nil_of_length_eq_zero (Nat.le_zero.1 enough)
    obtain rfl := Except.ok.inj decoded
    exact ⟨[], rfl, rfl⟩
  | succ steps ih =>
    cases data with
    | nil =>
      obtain rfl := Except.ok.inj decoded
      exact ⟨[], rfl, rfl⟩
    | cons b rest =>
      rw [decodeFrom] at decoded
      split at decoded
      · simp at decoded
      next s length read =>
      obtain ⟨c, rfl, whole⟩ := of_front read
      have shorter : ((b :: rest).drop length).length ≤ steps := by
        have positive := length_encodeNat_pos c.toNat
        have lengths := congrArg List.length whole
        rw [List.length_append, List.length_cons] at lengths
        rw [List.length_cons] at enough
        omega
      split at decoded
      · simp at decoded
      next t later =>
      obtain ⟨cs, rfl, left⟩ := ih shorter later
      obtain rfl := Except.ok.inj decoded
      exact ⟨c :: cs, rfl, by rw [encodeChars_cons, ← left, ← whole]⟩

/-- A text has one encoding. -/
theorem decode_eq_ok_iff {data : Bytes} {text : String} :
    decode data = .ok text ↔ data = encode text := by
  constructor
  · intro decoded
    unfold decode at decoded
    cases read : decodeFrom false data.length 0 data with
    | error refusal =>
      rw [read] at decoded
      cases decoded
    | ok t =>
      rw [read] at decoded
      obtain rfl := Except.ok.inj decoded
      obtain ⟨cs, rfl, whole⟩ := of_decodeFrom (Nat.le_refl _) read
      rw [scalars_ofChars, encode, String.toList_ofList]
      exact whole
  · rintro rfl
    exact decode_encode text

theorem encode_injective {s t : String} (same : encode s = encode t) : s = t := by
  have decoded := decode_encode s
  rw [same, decode_encode] at decoded
  exact (Except.ok.inj decoded).symm

end FormatHost.Utf8
