/-!
# Lines

A text as the lines between its line feeds. There is one line more than there are line feeds. Other
kinds of line ends are made line feeds when a file is read.
-/
namespace FormatHost.Text

/-- The parts of a list between the elements that satisfy a test. -/
def splitAt {α : Type} (isMark : α → Bool) : List α → List (List α)
  | [] => [[]]
  | c :: rest =>
    if isMark c then [] :: splitAt isMark rest
    else match splitAt isMark rest with
      | [] => [[c]]
      | part :: parts => (c :: part) :: parts

/-- The lines of a text. -/
def lines (cs : List Char) : List (List Char) := splitAt (· == '\n') cs

/-- Lines with line feeds between them. -/
def unlines (ls : List (List Char)) : List Char := List.intercalate ['\n'] ls

/-- The text with a line feed for each carriage return, and for each line feed behind one only that. -/
def unifyBreaks : List Char → List Char
  | [] => []
  | '\r' :: '\n' :: rest => '\n' :: unifyBreaks rest
  | c :: rest => (if c == '\r' then '\n' else c) :: unifyBreaks rest

end FormatHost.Text
