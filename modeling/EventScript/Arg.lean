import EventScript.Text.Hidden

/-!
# Arguments

What an event can be told: a truth value, a whole number or a text. Numbers are asked for within an
interval, the numbers that a word of the machine, or of the notation, can hold. A message shows an
argument by its kind and its value. A text is quoted there: it stands between double quotes, on one
line, with every character that a terminal would hide, join to its neighbour or act upon written by
its code.
-/
namespace EventScript

/-- Consecutive whole numbers, both ends included. -/
structure Interval where
  low : Int
  high : Int
deriving DecidableEq, Repr

namespace Interval

/-- The numbers of an unsigned word. -/
def unsigned (bits : Nat) : Interval := ⟨0, Nat.pow 2 bits - 1⟩

/-- The numbers of a signed word in two's complement. -/
def signed (bits : Nat) : Interval := ⟨-Nat.pow 2 (bits - 1), Nat.pow 2 (bits - 1) - 1⟩

/-- Whether a number belongs to an interval. -/
def holds (interval : Interval) (n : Int) : Bool := interval.low ≤ n && n ≤ interval.high

/-- A number is held when it lies between the ends. -/
theorem holds_iff (interval : Interval) (n : Int) :
    interval.holds n = true ↔ interval.low ≤ n ∧ n ≤ interval.high := by
  simp [holds]

end Interval

namespace Text

/-- Digits of a code are hexadecimal, in lower case and without leading zeros. -/
def hexadecimal (n : Nat) : List Char := Nat.toDigits 16 n

/-- One character of a quotation. A single quote needs no escape between double quotes. -/
def quoteChar (c : Char) : List Char :=
  match c with
  | '\x00' => ['\\', '0']
  | '\t' => ['\\', 't']
  | '\r' => ['\\', 'r']
  | '\n' => ['\\', 'n']
  | '"' => ['\\', '"']
  | '\\' => ['\\', '\\']
  | _ => if isHidden c then ['\\', 'u', '{'] ++ hexadecimal c.toNat ++ ['}'] else [c]

/-- A quotation of the whole text. -/
def quote (text : String) : String :=
  String.ofList ('"' :: text.toList.flatMap quoteChar ++ ['"'])

end Text

/-- The value of one argument of an event. -/
inductive Arg where
  | flag (value : Bool)
  | number (value : Int)
  | text (value : String)
deriving DecidableEq, Repr

/-- An argument as a message shows it: its kind, then its value in parentheses. -/
def Arg.describe : Arg → String
  | flag true => "Bool(true)"
  | flag false => "Bool(false)"
  | number value => "Int(" ++ toString value ++ ")"
  | text value => "Text(" ++ Text.quote value ++ ")"

end EventScript
