import FormatHost.Config.Text
import FormatHost.Proofs.Text.Utf8
import Mathlib.Data.List.Chain
/-!
# Written texts are read again

A text in quotes is read as it was, up to one thing: a high surrogate with a low one behind it is written
as the character that the two spell, and is read as this character.
-/
namespace FormatHost

/-- The character that a high and a low surrogate spell together. -/
def Symbol.joint (high low : Symbol) : Symbol :=
  .char (Char.ofNat (0x10000 + (high.codePoint - 0xD800) * 0x400 + (low.codePoint - 0xDC00)))

namespace Text

/-- The text with each low surrogate joined to the high one in front of it. -/
def paired : Text → Text
  | [] => []
  | [s] => [s]
  | s :: t :: rest =>
    if s.isHigh && t.isLow then Symbol.joint s t :: paired rest else s :: paired (t :: rest)

/-- No low surrogate stands behind a high one. -/
def Unpaired (t : Text) : Prop := t.IsChain fun s t => (s.isHigh && t.isLow) = false

instance (t : Text) : Decidable t.Unpaired := inferInstanceAs (Decidable (List.IsChain _ t))

theorem paired_eq_self {t : Text} (unpaired : t.Unpaired) : t.paired = t := by
  fun_induction paired t with
  | case1 => rfl
  | case2 s => rfl
  | case3 s t rest pair ih =>
    rw [(List.isChain_cons_cons.1 unpaired).1] at pair
    cases pair
  | case4 s t rest apart ih => rw [ih (List.isChain_cons_cons.1 unpaired).2]

/-- A string has no surrogates. -/
theorem unpaired_ofString (s : String) : (ofString s).Unpaired := by
  unfold ofString ofChars
  induction s.toList with
  | nil => exact .nil
  | cons c cs ih =>
    cases cs with
    | nil => exact .singleton _
    | cons d ds => exact List.isChain_cons_cons.2 ⟨rfl, ih⟩

end Text

namespace Json

/-! ### Escapes -/

theorem hexValue?_hexDigit {n : Nat} (small : n < 16) :
    hexValue? (.char (Bytes.hexDigit n)) = some n := by
  have all : ∀ k < 16, hexValue? (.char (Bytes.hexDigit k)) = some k := by decide
  exact all n small

/-- The four digits of a unit spell its number. -/
theorem hex4?_hex4 {n : Nat} (small : n < 0x10000) :
    hex4? (.char (Bytes.hexDigit (n / 0x1000 % 16))) (.char (Bytes.hexDigit (n / 0x100 % 16)))
      (.char (Bytes.hexDigit (n / 0x10 % 16))) (.char (Bytes.hexDigit (n % 16))) = some n := by
  rw [hex4?, hexValue?_hexDigit (by omega), hexValue?_hexDigit (by omega),
    hexValue?_hexDigit (by omega), hexValue?_hexDigit (by omega)]
  refine congrArg some ?_
  omega

/-- Pieces in front of what is read already. -/
def ahead (ps : List Piece) (r : Read (List Piece)) : Read (List Piece) :=
  r.map fun (qs, rest) => (ps ++ qs, rest)

theorem ahead_nil (r : Read (List Piece)) : ahead [] r = r := by
  rcases r with e | ⟨ps, rest⟩ <;> rfl

theorem ahead_ahead (ps qs : List Piece) (r : Read (List Piece)) :
    ahead ps (ahead qs r) = ahead (ps ++ qs) r := by
  rcases r with e | ⟨rs, rest⟩
  · rfl
  · simp [ahead, Except.map]

theorem pieces_unitEscape {n : Nat} (small : n < 0x10000) (rest : Text) :
    pieces (Text.ofChars (unitEscape n) ++ rest) = ahead [.unit n] (pieces rest) := by
  change pieces (.char '\\' :: .char 'u' :: .char _ :: .char _ :: .char _ :: .char _ :: rest) = _
  rw [pieces, hex4?_hex4 small]
  rcases pieces rest with e | ⟨ps, after⟩ <;> rfl

theorem pieces_short {c d : Char} (letter : shortEscape? (.char d) = some c) (other : d ≠ 'u')
    (rest : Text) : pieces (.char '\\' :: .char d :: rest) = ahead [.raw (.char c)] (pieces rest) := by
  rw [pieces]
  · simp only [letter]
    rcases pieces rest with e | ⟨ps, after⟩ <;> rfl
  · rintro a b c d' rest' ⟨⟩
    exact fun _ => other rfl

theorem pieces_plain {c : Char} (least : 0x20 ≤ c.toNat) (quote : c ≠ '"') (slash : c ≠ '\\')
    (rest : Text) : pieces (.char c :: rest) = ahead [.raw (.char c)] (pieces rest) := by
  rw [pieces]
  · have plain : isPlain (.char c) = true := by simp [isPlain, least]
    simp only [plain, if_true]
    rcases pieces rest with e | ⟨ps, after⟩ <;> rfl
  · rintro ⟨⟩
    exact quote rfl
  · rintro ⟨⟩
    exact slash rfl

/-- The characters with an escape of one letter. -/
def shortEscaped : List Char := ['"', '\\', '\n', '\r', '\t', '\x08', '\x0c']

/-- The escape of a character that has no short one. -/
theorem escape_char {c : Char} (long : c ∉ shortEscaped) :
    escape (.char c) =
      if c.toNat < 0x20 then unitEscape c.toNat
      else if c.toNat < 0x7F then [c]
      else if c.toNat < 0x10000 then unitEscape c.toNat
      else unitEscape (0xD800 + (c.toNat - 0x10000) / 0x400) ++
        unitEscape (0xDC00 + (c.toNat - 0x10000) % 0x400) := by
  simp only [shortEscaped, List.mem_cons, List.not_mem_nil, or_false, not_or] at long
  obtain ⟨quote, slash, newline, return', tab, back, feed⟩ := long
  simp only [escape, beq_iff_eq, quote, slash, newline, return', tab, back, feed, if_false]

/-- The pieces as which the escape of a symbol is read. -/
def Piece.of : Symbol → List Piece
  | .surrogate offset => [.unit (0xD800 + offset.val)]
  | .char c =>
    if c ∈ shortEscaped then [.raw (.char c)]
    else if c.toNat < 0x20 then [.unit c.toNat]
    else if c.toNat < 0x7F then [.raw (.char c)]
    else if c.toNat < 0x10000 then [.unit c.toNat]
    else [.unit (0xD800 + (c.toNat - 0x10000) / 0x400), .unit (0xDC00 + (c.toNat - 0x10000) % 0x400)]

/-- An escape is read as the pieces of its symbol. -/
theorem pieces_escape (s : Symbol) (rest : Text) :
    pieces (Text.ofChars (escape s) ++ rest) = ahead (Piece.of s) (pieces rest) := by
  cases s with
  | surrogate offset => exact pieces_unitEscape (by omega) rest
  | char c =>
    have valid : c.toNat < 0xD800 ∨ 0xDFFF < c.toNat ∧ c.toNat < 0x110000 := c.valid
    by_cases short : c ∈ shortEscaped
    · rw [Piece.of, if_pos short]
      simp only [shortEscaped, List.mem_cons, List.not_mem_nil, or_false] at short
      rcases short with rfl | rfl | rfl | rfl | rfl | rfl | rfl
      all_goals exact pieces_short rfl (by decide) rest
    rw [Piece.of, if_neg short, escape_char short]
    split
    · exact pieces_unitEscape (by omega) rest
    split
    · refine pieces_plain (by omega) ?_ ?_ rest
      · rintro rfl
        exact short (by decide)
      · rintro rfl
        exact short (by decide)
    split
    · exact pieces_unitEscape (by omega) rest
    · have both (cs ds : List Char) :
          Text.ofChars (cs ++ ds) ++ rest = Text.ofChars cs ++ (Text.ofChars ds ++ rest) := by
        simp [Text.ofChars]
      rw [both, pieces_unitEscape (by omega), pieces_unitEscape (by omega), ahead_ahead]
      rfl

theorem pieces_flatMap_escape (t rest : Text) :
    pieces (Text.ofChars (t.flatMap escape) ++ rest) =
      ahead (t.flatMap Piece.of) (pieces rest) := by
  induction t with
  | nil => exact (ahead_nil _).symm
  | cons s t ih =>
    have front : Text.ofChars ((s :: t).flatMap escape) ++ rest =
        Text.ofChars (escape s) ++ (Text.ofChars (t.flatMap escape) ++ rest) := by
      simp [Text.ofChars]
    rw [front, pieces_escape, ih, ahead_ahead, List.flatMap_cons]

/-! ### Joining -/

theorem ofCodePoint?_toNat (c : Char) : Symbol.ofCodePoint? c.toNat = some (.char c) := by
  have valid : c.toNat.isValidChar := c.valid
  rw [Symbol.ofCodePoint?, dif_pos valid]
  rfl

theorem ofCodePoint?_surrogate (offset : Fin 0x800) :
    Symbol.ofCodePoint? (0xD800 + offset.val) = some (.surrogate offset) := by
  have invalid : ¬(0xD800 + offset.val).isValidChar := by
    rintro (less | ⟨more, -⟩) <;> omega
  rw [Symbol.ofCodePoint?, dif_neg invalid, dif_pos ⟨by omega, by omega⟩]
  exact congrArg (some ∘ Symbol.surrogate) (Fin.ext (by simp only; omega))

theorem single_of_spells {n : Nat} {s : Symbol} (spells : Symbol.ofCodePoint? n = some s) :
    single true n = .ok s := by
  rw [single, spells]
  cases s <;> rfl

/-- A unit that forms no pair with what follows is read by itself. -/
theorem joined_unit {n : Nat} {s : Symbol} (spells : Symbol.ofCodePoint? n = some s)
    {qs : List Piece} (apart : ∀ l rest, qs = .unit l :: rest → (isHighUnit n && isLowUnit l) = false) :
    joined true (.unit n :: qs) = (joined true qs).map (s :: ·) := by
  match qs with
  | [] =>
    have alone : joined true [.unit n] = (single true n).map ([·]) := by rw [joined]
    rw [alone, single_of_spells spells, joined]
    rfl
  | .raw s' :: rest =>
    rw [joined, joined, single_of_spells spells]
    rcases joined true rest <;> rfl
  | .unit l :: rest =>
    rw [joined, if_neg (by simp [apart l rest rfl]), single_of_spells spells]
    rcases joined true (.unit l :: rest) <;> rfl

/-- Two units that form a pair are joined. -/
theorem joined_pair {high low : Nat} {s : Symbol} (isHigh : 0xD800 ≤ high ∧ high < 0xDC00)
    (isLow : 0xDC00 ≤ low ∧ low < 0xE000)
    (spells : Symbol.ofCodePoint? (0x10000 + (high - 0xD800) * 0x400 + (low - 0xDC00)) = some s)
    (qs : List Piece) :
    joined true (.unit high :: .unit low :: qs) = (joined true qs).map (s :: ·) := by
  rw [joined, if_pos (by simp [isHighUnit, isLowUnit, isHigh, isLow]), single_of_spells spells]
  rcases joined true qs <;> rfl

/-- The pieces of a symbol are read as the symbol, whatever follows, unless it is a high surrogate. -/
theorem joined_of {s : Symbol} (apart : s.isHigh = false) (qs : List Piece) :
    joined true (Piece.of s ++ qs) = (joined true qs).map (s :: ·) := by
  cases s with
  | surrogate offset =>
    refine joined_unit (ofCodePoint?_surrogate offset) fun l rest _ => ?_
    have low : ¬0xD800 + offset.val < 0xDC00 := by
      simp only [Symbol.isHigh, decide_eq_false_iff_not] at apart
      omega
    simp [isHighUnit, low]
  | char c =>
    have valid : c.toNat < 0xD800 ∨ 0xDFFF < c.toNat ∧ c.toNat < 0x110000 := c.valid
    have unit : joined true (.unit c.toNat :: qs) = (joined true qs).map (.char c :: ·) := by
      refine joined_unit (ofCodePoint?_toNat c) fun l rest _ => ?_
      have none : ¬(0xD800 ≤ c.toNat ∧ c.toNat < 0xDC00) := by omega
      simp only [isHighUnit, Bool.and_eq_false_iff, decide_eq_false_iff_not]
      omega
    have raw : joined true (.raw (.char c) :: qs) = (joined true qs).map (.char c :: ·) := by
      rw [joined]
    rw [Piece.of]
    split
    · exact raw
    split
    · exact unit
    split
    · exact raw
    split
    · exact unit
    · refine joined_pair ⟨by omega, by omega⟩ ⟨by omega, by omega⟩ ?_ qs
      have number : 0x10000 + (0xD800 + (c.toNat - 0x10000) / 0x400 - 0xD800) * 0x400 +
          (0xDC00 + (c.toNat - 0x10000) % 0x400 - 0xDC00) = c.toNat := by omega
      rw [number, ofCodePoint?_toNat]

/-- A symbol that opens with a low unit is a low surrogate. -/
theorem isLow_of_opens {s : Symbol} {l : Nat} {qs rest : List Piece}
    (opens : Piece.of s ++ qs = .unit l :: rest) : isLowUnit l = s.isLow := by
  cases s with
  | surrogate offset =>
    obtain rfl := Piece.unit.inj (List.cons.inj opens).1
    rw [Bool.eq_iff_iff]
    simp only [isLowUnit, Symbol.isLow, Bool.and_eq_true, decide_eq_true_eq]
    omega
  | char c =>
    have valid : c.toNat < 0xD800 ∨ 0xDFFF < c.toNat ∧ c.toNat < 0x110000 := c.valid
    have apart (none : ¬(0xDC00 ≤ l ∧ l < 0xE000)) : isLowUnit l = (Symbol.char c).isLow := by
      simp only [isLowUnit, Symbol.isLow, Bool.and_eq_false_iff, decide_eq_false_iff_not]
      omega
    rw [Piece.of] at opens
    split at opens
    · cases opens
    split at opens
    · obtain rfl := Piece.unit.inj (List.cons.inj opens).1
      exact apart (by omega)
    split at opens
    · cases opens
    split at opens
    · obtain rfl := Piece.unit.inj (List.cons.inj opens).1
      exact apart (by omega)
    · obtain rfl := Piece.unit.inj (List.cons.inj opens).1
      exact apart (by omega)

/-- The number that a high and a low surrogate spell. -/
theorem exists_joint {high low : Fin 0x800} (isHigh : (Symbol.surrogate high).isHigh = true)
    (isLow : (Symbol.surrogate low).isLow = true) :
    ∃ c : Char, Symbol.joint (.surrogate high) (.surrogate low) = .char c ∧
      c.toNat = 0x10000 + high.val * 0x400 + (low.val - 0x400) := by
  simp only [Symbol.isHigh, Symbol.isLow, decide_eq_true_eq] at isHigh isLow
  have valid : (0x10000 + high.val * 0x400 + (low.val - 0x400)).isValidChar := .inr (by omega)
  have number : 0x10000 + (0xD800 + high.val - 0xD800) * 0x400 + (0xD800 + low.val - 0xDC00) =
      0x10000 + high.val * 0x400 + (low.val - 0x400) := by omega
  refine ⟨_, rfl, ?_⟩
  rw [Symbol.codePoint, Symbol.codePoint, number, Char.ofNat, dif_pos valid]
  rfl

/-- The pieces of a high and a low surrogate are read as the character that they spell. -/
theorem joined_joint {s t : Symbol} (isHigh : s.isHigh = true) (isLow : t.isLow = true)
    (qs : List Piece) :
    joined true (Piece.of s ++ (Piece.of t ++ qs)) = (joined true qs).map (Symbol.joint s t :: ·) := by
  cases s with
  | char c => cases isHigh
  | surrogate high =>
    cases t with
    | char c => cases isLow
    | surrogate low =>
      obtain ⟨c, joint, number⟩ := exists_joint isHigh isLow
      simp only [Symbol.isHigh, Symbol.isLow, decide_eq_true_eq] at isHigh isLow
      have same : 0x10000 + (0xD800 + high.val - 0xD800) * 0x400 + (0xD800 + low.val - 0xDC00) =
          c.toNat := by omega
      have spells : Symbol.ofCodePoint?
          (0x10000 + (0xD800 + high.val - 0xD800) * 0x400 + (0xD800 + low.val - 0xDC00)) =
            some (.char c) := by rw [same, ofCodePoint?_toNat]
      rw [joint]
      exact joined_pair ⟨by omega, by omega⟩ ⟨by omega, by omega⟩ spells qs

/-- The pieces of a text are read as the text, with its surrogates joined. -/
theorem joined_flatMap_of (t : Text) : joined true (t.flatMap Piece.of) = .ok t.paired := by
  fun_induction Text.paired t with
  | case1 => rw [List.flatMap_nil, joined]
  | case2 s =>
    rw [List.flatMap_singleton]
    cases high : s.isHigh with
    | false =>
      have alone := joined_of high []
      rwa [List.append_nil, joined] at alone
    | true =>
      cases s with
      | char c => cases high
      | surrogate offset => exact joined_unit (ofCodePoint?_surrogate offset) nofun
  | case3 s t rest pair ih =>
    obtain ⟨isHigh, isLow⟩ := (Bool.and_eq_true _ _).mp pair
    rw [List.flatMap_cons, List.flatMap_cons, joined_joint isHigh isLow, ih]
    rfl
  | case4 s t rest apart ih =>
    rw [Bool.not_eq_true] at apart
    rw [List.flatMap_cons]
    cases high : s.isHigh with
    | false => rw [joined_of high, ih]; rfl
    | true =>
      cases s with
      | char c => cases high
      | surrogate offset =>
        rw [high, Bool.true_and] at apart
        have open' : ∀ l qs, (t :: rest).flatMap Piece.of = .unit l :: qs →
            (isHighUnit (0xD800 + offset.val) && isLowUnit l) = false := by
          intro l qs same
          rw [isLow_of_opens (List.flatMap_cons ▸ same), apart, Bool.and_false]
        refine (joined_unit (ofCodePoint?_surrogate offset) open').trans ?_
        rw [ih]
        rfl

/-- A text in quotes is read as it was, with its surrogates joined. -/
theorem string_written (t rest : Text) :
    string true (Text.ofChars (t.flatMap escape) ++ .char '"' :: rest) = .ok (t.paired, rest) := by
  have closed : pieces (.char '"' :: rest) = .ok ([], rest) := by rw [pieces]
  rw [string, pieces_flatMap_escape, closed]
  simp only [ahead, Except.map, List.append_nil, joined_flatMap_of]

/-! ### Writing again -/

/-- A pair of surrogates and the character that they spell are written in the same way. -/
theorem escape_joint {s t : Symbol} (isHigh : s.isHigh = true) (isLow : t.isLow = true) :
    escape (Symbol.joint s t) = escape s ++ escape t := by
  cases s with
  | char c => cases isHigh
  | surrogate high =>
    cases t with
    | char c => cases isLow
    | surrogate low =>
      obtain ⟨c, joint, number⟩ := exists_joint isHigh isLow
      simp only [Symbol.isHigh, Symbol.isLow, decide_eq_true_eq] at isHigh isLow
      have long : c ∉ shortEscaped := by
        intro short
        have small : ∀ c ∈ shortEscaped, c.toNat < 0x10000 := by simp [shortEscaped]
        exact absurd (small c short) (by omega)
      rw [joint, escape_char long, if_neg (by omega), if_neg (by omega), if_neg (by omega), number]
      have first : 0xD800 + (0x10000 + high.val * 0x400 + (low.val - 0x400) - 0x10000) / 0x400 =
          0xD800 + high.val := by omega
      have second : 0xDC00 + (0x10000 + high.val * 0x400 + (low.val - 0x400) - 0x10000) % 0x400 =
          0xD800 + low.val := by omega
      rw [first, second]
      rfl

/-- What is read is written in the same way again. -/
theorem quoted_paired (t : Text) : quoted t.paired = quoted t := by
  have written : t.paired.flatMap escape = t.flatMap escape := by
    fun_induction Text.paired t with
    | case1 => rfl
    | case2 s => rfl
    | case3 s t rest pair ih =>
      obtain ⟨isHigh, isLow⟩ := (Bool.and_eq_true _ _).mp pair
      rw [List.flatMap_cons, escape_joint isHigh isLow, ih, List.flatMap_cons, List.flatMap_cons,
        List.append_assoc]
    | case4 s t rest apart ih =>
      rw [List.flatMap_cons, ih]
      rfl
  rw [quoted, written, quoted]

end Json

end FormatHost
