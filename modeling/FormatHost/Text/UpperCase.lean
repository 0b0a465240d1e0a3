import FormatHost.Text.Symbol
/-!
# Upper case of names

Names that are compared without regard to case are ASCII. So it is enough to know, of each character,
its upper-case form where that form is ASCII; any other character keeps its place and makes the
name an unknown one.
-/
namespace FormatHost.Text

/-- The characters beyond ASCII whose upper-case form is ASCII. -/
def asciiUppers : List (Nat × List Char) := [
  (0xDF, ['S', 'S']), (0x131, ['I']), (0x17F, ['S']), (0xFB00, ['F', 'F']), (0xFB01, ['F', 'I']),
  (0xFB02, ['F', 'L']), (0xFB03, ['F', 'F', 'I']), (0xFB04, ['F', 'F', 'L']), (0xFB05, ['S', 'T']),
  (0xFB06, ['S', 'T'])]

/-- The upper-case form of a character as far as it is ASCII. -/
def upperChar (c : Char) : List Char :=
  if 'a' ≤ c ∧ c ≤ 'z' then [Char.ofNat (c.toNat - 32)]
  else match asciiUppers.find? fun e => e.1 == c.toNat with
    | some (_, form) => form
    | none => [c]

/-- The upper-case form of a name. -/
def upperName (cs : List Char) : List Char := cs.flatMap upperChar

end FormatHost.Text
