/-!
# Readers

A reader takes what it understands from the front of a text, or fails. A failure is never final: the
alternative of a reader starts over where the reader began.
-/
namespace EventScript.Toml

/-- Takes a value from the front of a text. -/
abbrev Reader := StateT (List Char) Option

namespace Reader

/-- The character in front, which stays there. -/
def peek : Reader (Option Char) := return (← get).head?

/-- The character in front, whatever it is. -/
def next : Reader Char := fun input =>
  match input with
  | [] => none
  | c :: rest => some (c, rest)

/-- A character of a class. -/
def oneOf (accepts : Char → Bool) : Reader Char := do
  let c ← next
  if accepts c then return c else failure

/-- One particular character. -/
def char (expected : Char) : Reader Unit := do
  let _ ← oneOf (· == expected)

/-- One particular sequence of characters. -/
def word (expected : List Char) : Reader Unit := expected.forM char

/-- As many characters of a class as there are in front. -/
def span (accepts : Char → Bool) : Reader (List Char) := fun input => some (input.span accepts)

/-- At least one character of a class, and as many as there are. -/
def spanSome (accepts : Char → Bool) : Reader (List Char) := do
  let taken ← span accepts
  if taken.isEmpty then failure else return taken

/-- A value where there is one. -/
def optionally (reader : Reader α) : Reader (Option α) := (some <$> reader) <|> pure none

/-- As many values as there are in front, but at most as many as the bound. -/
def many (reader : Reader α) : Nat → Reader (List α)
  | 0 => return []
  | bound + 1 => do
    match ← optionally reader with
    | none => return []
    | some value => return value :: (← many reader bound)

/-- At least one value, with a separator between any two. -/
def separated (reader : Reader α) (separator : Reader Unit) (bound : Nat) : Reader (List α) := do
  let first ← reader
  let others ← many (do separator; reader) bound
  return first :: others

end Reader

/-- Spaces and tabs separate words of one line. -/
def isSpace (c : Char) : Bool := c == ' ' || c == '\t'

/-- A control character other than the tab may stand in no comment and in no text. -/
def isVisible (c : Char) : Bool := c == '\t' || (0x20 ≤ c.toNat && c.toNat != 0x7F)

/-- Skips spaces and tabs. -/
def spaces : Reader Unit := do
  let _ ← Reader.span isSpace

/-- A line ends with a line feed, before which a carriage return may stand. -/
def newline : Reader Unit := Reader.char '\n' <|> Reader.word ['\r', '\n']

/-- A comment reaches up to the end of its line. -/
def comment : Reader Unit := do
  Reader.char '#'
  let _ ← Reader.span isVisible

/-- The last line of a text needs no end. -/
def lineEnd : Reader Unit := do
  match ← Reader.peek with
  | none => return
  | some _ => newline

/-- What may follow a statement on its line. -/
def trailing : Reader Unit := do
  spaces
  let _ ← Reader.optionally comment
  lineEnd

end EventScript.Toml
