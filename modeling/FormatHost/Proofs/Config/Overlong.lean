import FormatHost.Proofs.Config.RoundTrip
import Mathlib.Algebra.GroupWithZero.Nat
/-!
# Integers with too many digits

There is a longest integer that is written, and a longest one that is read. A configuration text with a
longer one spells no map, and so counts as the empty one.
-/
namespace FormatHost.Json

/-- A power of ten has one digit more than its exponent tells. -/
theorem length_toDigits_pow (k : Nat) : (Nat.toDigits 10 (10 ^ k)).length = k + 1 := by
  induction k with
  | zero => rfl
  | succ k ih =>
    have more : 10 ≤ 10 ^ (k + 1) := Nat.le_self_pow (Nat.succ_ne_zero k) 10
    rw [Nat.toDigits_of_base_le (by decide) more, List.length_append, Nat.pow_succ,
      Nat.mul_div_cancel _ (by decide), ih]
    rfl

theorem Stops.numberFrom_overlong {rest : Text} (stops : Stops rest) (negative : Bool)
    {whole : List Nat} (long : Numeral.digitLimit < whole.length) :
    Json.numberFrom negative whole rest = .error .integerTooLong := by
  obtain ⟨c, after, rfl, rfl | rfl⟩ := stops
  · simp only [Json.numberFrom, fraction?, exponent?]
    exact if_pos long
  · simp only [Json.numberFrom, fraction?, exponent?]
    exact if_pos long

section

variable {n : Nat} (long : 4300 < (Nat.toDigits 10 n).length)
include long

theorem value_overlong (fuel depth : Nat) {rest : Text} (stops : Stops rest) :
    value true (fuel + 1) depth (Text.ofChars (Nat.toDigits 10 n) ++ rest) =
      .error .integerTooLong := by
  have read : number false (Text.ofChars (Nat.toDigits 10 n) ++ rest) = .error .integerTooLong := by
    rw [number_eq_numberFrom false n stops]
    exact stops.numberFrom_overlong false (by rwa [List.length_map])
  obtain ⟨c, cs, digits, isDigit⟩ := exists_toDigits n
  have plain : c ∉ ['"', '[', '{'] := by
    intro mem
    have none : ∀ d ∈ ['"', '[', '{'], d.isDigit = false := by simp
    exact absurd isDigit (by simp [none c mem])
  rw [digits] at read ⊢
  change value true (fuel + 1) depth (.char c :: (Text.ofChars cs ++ rest)) = _
  rw [value_eq_atom _ _ _ plain, atom_digit isDigit]
  exact read

/-- The text of a map that opens with an overlong integer is refused. -/
theorem parse_overlong (k : Text) (room : Nat) :
    parse (.roomy room) (Text.ofChars ('{' :: (quoted k ++ ':' :: Nat.toDigits 10 n) ++ ['}'])) =
      .error .integerTooLong := by
  have read := string_written k (.char ':' :: (Text.ofChars (Nat.toDigits 10 n) ++ [.char '}']))
  let rest : Text := Text.ofChars (k.flatMap escape) ++ .char '"' :: .char ':' ::
    (Text.ofChars (Nat.toDigits 10 n) ++ [.char '}'])
  have shape : Text.ofChars ('{' :: (quoted k ++ ':' :: Nat.toDigits 10 n) ++ ['}']) =
      .char '{' :: .char '"' :: rest := by
    simp [quoted, Text.ofChars, rest]
  have solid : skip (Text.ofChars (Nat.toDigits 10 n) ++ [.char '}']) =
      Text.ofChars (Nat.toDigits 10 n) ++ [.char '}'] := by
    obtain ⟨c, cs, digits, isDigit⟩ := exists_toDigits n
    rw [digits]
    exact skip_char (isSpace_of_isDigit isDigit) _
  have refused (fuel depth : Nat) :
      members true (fuel + 2) depth (.char '"' :: rest) = .error .integerTooLong := by
    have colon (t : Text) : skip (.char ':' :: t) = .char ':' :: t := skip_char rfl t
    have stops : Stops [.char '}'] := ⟨'}', [], rfl, .inr rfl⟩
    have valued := value_overlong long fuel depth stops
    rw [members, read]
    simp only [bind, Except.bind, colon, solid, valued]
  have entered : value (Dialect.roomy room).lone (2 * (rest.length + 2) + 2)
      ((Dialect.roomy room).depth.getD (rest.length + 2)) (.char '{' :: .char '"' :: rest) =
        .error .integerTooLong := by
    have opened := value_map (2 * (rest.length + 1) + 1 + 2) room rest
    rw [refused] at opened
    exact opened
  have length : (Symbol.char '{' :: Symbol.char '"' :: rest).length = rest.length + 2 := rfl
  rw [parse, shape, skip_char rfl, length, entered]
  rfl

end

end FormatHost.Json

namespace FormatHost.ConfigMap

/-- The text of a map that opens with an overlong integer counts as the empty map. -/
theorem parse_overlong (k : Text) {n : Nat} (long : 4300 < (Nat.toDigits 10 n).length) (room : Nat) :
    parse room (Utf8.encodeChars ('{' :: (Json.quoted k ++ ':' :: Nat.toDigits 10 n) ++ ['}'])) =
      .ok [] := by
  have detected : Text.Encoding.detect
      (Utf8.encodeChars ('{' :: (Json.quoted k ++ ':' :: Nat.toDigits 10 n) ++ ['}'])) =
        (.utf8, Utf8.encodeChars ('{' :: (Json.quoted k ++ ':' :: Nat.toDigits 10 n) ++ ['}'])) :=
    Text.Encoding.detect_brace rfl _
  rw [parse, Text.ofBytes?, detected]
  simp only [Utf8.decodeLone_encodeChars, Except.toOption, Json.parse_overlong long k]

/-- A map with an overlong integer has no written form. -/
theorem not_writable_overlong (k : Text) {n : Nat} (long : 4300 < (Nat.toDigits 10 n).length) :
    ¬Writable [(k, .int n)] := by
  intro writable
  have short : (Nat.repr n).length ≤ 4300 := writable _ (List.mem_singleton_self _)
  rw [← String.length_toList, Nat.toList_repr] at short
  exact Nat.not_le.2 long short

end FormatHost.ConfigMap
