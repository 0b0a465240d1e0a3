import FormatHost.Json.Parser
/-!
# The grammar of JSON texts

Which text spells which value, told by rules and without a parser. Numbers that are not finite have names,
an escaped surrogate may stand alone, and an integer has no more digits than the limit; nesting is free.
-/
namespace FormatHost.Json

/-- Blanks only. -/
def Blanks (t : Text) : Prop := ∀ s ∈ t, isSpace s = true

/-! ### Strings -/

/-- What stands inside quotes, and its pieces. -/
inductive Pieced : Text → List Piece → Prop
  | none : Pieced [] []
  | plain {s : Symbol} {t : Text} {ps : List Piece} (plain : isPlain s = true)
      (quote : s ≠ .char '"') (slash : s ≠ .char '\\') (rest : Pieced t ps) :
      Pieced (s :: t) (.raw s :: ps)
  | short {s : Symbol} {c : Char} {t : Text} {ps : List Piece} (letter : shortEscape? s = some c)
      (rest : Pieced t ps) : Pieced (.char '\\' :: s :: t) (.raw (.char c) :: ps)
  | unit {a b c d : Symbol} {n : Nat} {t : Text} {ps : List Piece} (digits : hex4? a b c d = some n)
      (rest : Pieced t ps) : Pieced (.char '\\' :: .char 'u' :: a :: b :: c :: d :: t) (.unit n :: ps)

/-- The symbols of pieces. A high unit and a low one behind it spell one character together; other units
stand for themselves. -/
inductive Joined : List Piece → Text → Prop
  | none : Joined [] []
  | raw {s : Symbol} {ps : List Piece} {t : Text} (rest : Joined ps t) : Joined (.raw s :: ps) (s :: t)
  | unit {n : Nat} {s : Symbol} {ps : List Piece} {t : Text} (spells : Symbol.ofCodePoint? n = some s)
      (apart : ∀ l qs, ps = .unit l :: qs → (isHighUnit n && isLowUnit l) = false)
      (rest : Joined ps t) : Joined (.unit n :: ps) (s :: t)
  | pair {high low : Nat} {s : Symbol} {ps : List Piece} {t : Text} (isHigh : isHighUnit high = true)
      (isLow : isLowUnit low = true)
      (spells : Symbol.ofCodePoint? (0x10000 + (high - 0xD800) * 0x400 + (low - 0xDC00)) = some s)
      (rest : Joined ps t) : Joined (.unit high :: .unit low :: ps) (s :: t)

/-- What stands inside quotes, and the text that it spells. -/
def Quotes (t text : Text) : Prop := ∃ ps, Pieced t ps ∧ Joined ps text

/-! ### Numbers -/

/-- Digits and their values. -/
def Digits (t : Text) (ds : List Nat) : Prop := t.map digit? = ds.map some

/-- The digits in front of fraction and exponent. No zero stands in front of others. -/
structure Whole (t : Text) (ds : List Nat) : Prop where
  digits : Digits t ds
  some : ds ≠ []
  zero : ds.head? = Option.some 0 → ds.length = 1

/-- An exponent and its value. -/
inductive Exponent : Text → Int → Prop
  | plain {c : Char} {t : Text} {ds : List Nat} (letter : c = 'e' ∨ c = 'E') (digits : Digits t ds)
      (some : ds ≠ []) : Exponent (.char c :: t) (Numeral.value ds)
  | plus {c : Char} {t : Text} {ds : List Nat} (letter : c = 'e' ∨ c = 'E') (digits : Digits t ds)
      (some : ds ≠ []) : Exponent (.char c :: .char '+' :: t) (Numeral.value ds)
  | minus {c : Char} {t : Text} {ds : List Nat} (letter : c = 'e' ∨ c = 'E') (digits : Digits t ds)
      (some : ds ≠ []) : Exponent (.char c :: .char '-' :: t) (-(Numeral.value ds : Int))

/-- A number behind its sign. Without fraction and exponent it is an integer. -/
inductive Number (negative : Bool) : Text → Datum → Prop
  | integer {t : Text} {ds : List Nat} (whole : Whole t ds) (short : ds.length ≤ Numeral.digitLimit) :
      Number negative t
        (.int (if negative then -(Numeral.value ds : Int) else (Numeral.value ds : Int)))
  | fraction {t f : Text} {ds ps : List Nat} (whole : Whole t ds) (part : Digits f ps)
      (some : ps ≠ []) :
      Number negative (t ++ .char '.' :: f)
        (.float (Double.ofDecimal negative (Numeral.value (ds ++ ps)) (0 - ps.length)))
  | exponent {t u : Text} {ds : List Nat} {e : Int} (whole : Whole t ds) (exponent : Exponent u e) :
      Number negative (t ++ u) (.float (Double.ofDecimal negative (Numeral.value ds) e))
  | both {t f u : Text} {ds ps : List Nat} {e : Int} (whole : Whole t ds) (part : Digits f ps)
      (some : ps ≠ []) (exponent : Exponent u e) :
      Number negative (t ++ .char '.' :: f ++ u)
        (.float (Double.ofDecimal negative (Numeral.value (ds ++ ps)) (e - ps.length)))

/-- The sign of a number. -/
def sign (negative : Bool) : Text := if negative then [.char '-'] else []

/-! ### Values -/

/-- The value of the last member with a key. -/
def lastOf? (ms : List (Text × Datum)) (key : Text) : Option Datum :=
  (ms.reverse.find? fun m => m.1 == key).map Prod.snd

/-- For each key its last value, at the place of its first member. -/
def latest (ms : List (Text × Datum)) : List (Text × Datum) :=
  (ms.map Prod.fst).eraseDups.filterMap fun key => (lastOf? ms key).map (key, ·)

/-- The entries of a map. -/
def entries (ms : List (Text × Datum)) : List (Datum × Datum) := ms.map fun m => (.text m.1, m.2)

/-- The parts of a JSON text: a value, the items of a list without and with brackets, and the members of an
object without and with braces. -/
inductive Part where
  | value (d : Datum)
  | items (ds : List Datum)
  | array (ds : List Datum)
  | members (ms : List (Text × Datum))
  | object (ms : List (Text × Datum))

/-- A text spells a part. -/
inductive Derives : Part → Text → Prop
  | word {w : String} {d : Datum} (known : (w, d) ∈ words) : Derives (.value d) (Text.ofString w)
  | number {negative : Bool} {t : Text} {d : Datum} (number : Number negative t d) :
      Derives (.value d) (sign negative ++ t)
  | string {t text : Text} (quotes : Quotes t text) :
      Derives (.value (.text text)) (.char '"' :: (t ++ [.char '"']))
  | list {t : Text} {ds : List Datum} (array : Derives (.array ds) t) : Derives (.value (.list ds)) t
  | map {t : Text} {ms : List (Text × Datum)} (object : Derives (.object ms) t) :
      Derives (.value (.map (entries (latest ms)))) t
  | lastItem {a t b : Text} {d : Datum} (before : Blanks a) (value : Derives (.value d) t)
      (behind : Blanks b) : Derives (.items [d]) (a ++ t ++ b)
  | nextItem {a t b u : Text} {d : Datum} {ds : List Datum} (before : Blanks a)
      (value : Derives (.value d) t) (behind : Blanks b) (rest : Derives (.items ds) u) :
      Derives (.items (d :: ds)) (a ++ t ++ b ++ .char ',' :: u)
  | noItems {a : Text} (blanks : Blanks a) : Derives (.array []) (.char '[' :: (a ++ [.char ']']))
  | brackets {t : Text} {ds : List Datum} (items : Derives (.items ds) t) :
      Derives (.array ds) (.char '[' :: (t ++ [.char ']']))
  | lastMember {a k b c t e : Text} {key : Text} {d : Datum} (before : Blanks a) (quotes : Quotes k key)
      (left : Blanks b) (right : Blanks c) (value : Derives (.value d) t) (behind : Blanks e) :
      Derives (.members [(key, d)])
        (a ++ .char '"' :: (k ++ .char '"' :: (b ++ .char ':' :: (c ++ t ++ e))))
  | nextMember {a k b c t e u : Text} {key : Text} {d : Datum} {ms : List (Text × Datum)}
      (before : Blanks a) (quotes : Quotes k key) (left : Blanks b) (right : Blanks c)
      (value : Derives (.value d) t) (behind : Blanks e) (rest : Derives (.members ms) u) :
      Derives (.members ((key, d) :: ms))
        (a ++ .char '"' :: (k ++ .char '"' :: (b ++ .char ':' :: (c ++ t ++ e ++ .char ',' :: u))))
  | noMembers {a : Text} (blanks : Blanks a) : Derives (.object []) (.char '{' :: (a ++ [.char '}']))
  | braces {t : Text} {ms : List (Text × Datum)} (members : Derives (.members ms) t) :
      Derives (.object ms) (.char '{' :: (t ++ [.char '}']))

/-- A whole text: a part with blanks around it. -/
def Document (p : Part) (t : Text) : Prop :=
  ∃ a u b, Blanks a ∧ Derives p u ∧ Blanks b ∧ t = a ++ u ++ b

end FormatHost.Json
