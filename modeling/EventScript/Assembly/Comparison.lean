/-!
# Comparisons

The six ways in which a conditional compares a variable with a constant, the spellings that an event
may use for each, and the one spelling of the assembler. A spelling may have a blank margin. Blank
is the White_Space property of the Unicode character database, so the no-break spaces and the line
and paragraph separators belong to it, and the zero width space does not.
-/
namespace EventScript.Text

/-- White_Space holds twenty-five characters, ten of which have runs of their own here. -/
def isBlank (c : Char) : Bool :=
  let code := c.toNat
  (0x09 ≤ code && code ≤ 0x0D) || code == 0x20 || code == 0x85 || code == 0xA0 ||
    code == 0x1680 || (0x2000 ≤ code && code ≤ 0x200A) || code == 0x2028 || code == 0x2029 ||
    code == 0x202F || code == 0x205F || code == 0x3000

/-- A margin is blank on either side; blanks between other characters stay. -/
def trim (text : List Char) : List Char :=
  ((text.dropWhile isBlank).reverse.dropWhile isBlank).reverse

end EventScript.Text

namespace EventScript.Assembly

/-- How two numbers are compared. -/
inductive Comparison where
  | equal
  | unequal
  | less
  | greater
  | lessOrEqual
  | greaterOrEqual
deriving DecidableEq, Repr

namespace Comparison

/-- The comparison that a text names, by a sign or by a word with or without its dot. The margin is
ignored, and so is the case of the letters of ASCII. -/
def ofText? (text : String) : Option Comparison :=
  match String.ofList ((Text.trim text.toList).map Char.toUpper) with
  | "==" | "EQ" | ".EQ" => some equal
  | "!=" | "NE" | ".NE" => some unequal
  | "<" | "LT" | ".LT" => some less
  | ">" | "GT" | ".GT" => some greater
  | "<=" | "LTE" | ".LTE" => some lessOrEqual
  | ">=" | "GTE" | ".GTE" => some greaterOrEqual
  | _ => none

/-- The spelling of the assembler. -/
def symbol : Comparison → String
  | equal => ".EQ"
  | unequal => ".NE"
  | less => ".LT"
  | greater => ".GT"
  | lessOrEqual => ".LTE"
  | greaterOrEqual => ".GTE"

end Comparison

end EventScript.Assembly
