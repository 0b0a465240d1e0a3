/-!
# Text

A text is a list of symbols. Most symbols are Unicode scalar values. A surrogate code point may also
stand alone, because a configuration text can spell one by an escape. A `String` is a text without
surrogates.
-/
namespace FormatHost

/-- One element of a text: a scalar value, or a surrogate code point `0xD800 + offset`. -/
inductive Symbol where
  | char (c : Char)
  | surrogate (offset : Fin 0x800)
  deriving DecidableEq, Repr, Inhabited

namespace Symbol

/-- The number of the symbol in the code space. -/
def codePoint : Symbol → Nat
  | char c => c.toNat
  | surrogate offset => 0xD800 + offset.val

/-- The symbol of a number, if the number lies in the code space. -/
def ofCodePoint? (n : Nat) : Option Symbol :=
  if h : n.isValidChar then some (.char (Char.ofNatAux n h))
  else if h : 0xD800 ≤ n ∧ n < 0xE000 then some (.surrogate ⟨n - 0xD800, by omega⟩)
  else none

/-- The scalar value of a symbol, if it is one. -/
def char? : Symbol → Option Char
  | char c => some c
  | surrogate _ => none

/-- High surrogates open a pair. -/
def isHigh : Symbol → Bool
  | char _ => false
  | surrogate offset => offset.val < 0x400

/-- Low surrogates close a pair. -/
def isLow : Symbol → Bool
  | char _ => false
  | surrogate offset => 0x400 ≤ offset.val

theorem char?_eq_some_iff {s : Symbol} {c : Char} : s.char? = some c ↔ s = char c := by
  cases s <;> simp [char?]

end Symbol

/-- A list of symbols. -/
abbrev Text := List Symbol

namespace Text

/-- The symbols of a list of scalar values. -/
def ofChars (cs : List Char) : Text := cs.map Symbol.char

/-- The symbols of a string. -/
def ofString (s : String) : Text := ofChars s.toList

/-- The scalar values of a text, or nothing if a surrogate stands in it. -/
def chars? (t : Text) : Option (List Char) := t.mapM Symbol.char?

/-- The string of a text, or nothing if a surrogate stands in it. -/
def toString? (t : Text) : Option String := t.chars?.map String.ofList

/-- The string of a text with its surrogates left out, for places where nothing is lost by it. -/
def scalars (t : Text) : String := String.ofList (t.filterMap Symbol.char?)

theorem chars?_ofChars (cs : List Char) : (ofChars cs).chars? = some cs := by
  induction cs with
  | nil => rfl
  | cons c cs ih =>
    simp only [ofChars, chars?] at ih ⊢
    simp [List.mapM_cons, ih, Symbol.char?]

theorem toString?_ofString (s : String) : (ofString s).toString? = some s := by
  simp [toString?, ofString, chars?_ofChars]

end Text

end FormatHost
