/-!
# TOML values

The values that a TOML text stands for. Numbers other than whole ones are kept as they are written,
and a date or a time in its normal form, since neither is ever calculated with.
-/
namespace EventScript.Toml

/-- A value of a TOML text. The keys of a table are distinct and in order of appearance. -/
inductive Value where
  | text (value : String)
  | integer (value : Int)
  | float (written : String)
  | boolean (value : Bool)
  | moment (normal : String)
  | array (values : List Value)
  | table (entries : List (String × Value))
deriving Inhabited

mutual

/-- How many arrays and tables lie around the innermost value, that value included. -/
def Value.height : Value → Nat
  | .array values => heightOfAll values + 1
  | .table entries => heightOfEntries entries + 1
  | _ => 1

/-- The height of the highest of several values. -/
def heightOfAll : List Value → Nat
  | [] => 0
  | value :: rest => max value.height (heightOfAll rest)

/-- The height of the highest entry of a table. -/
def heightOfEntries : List (String × Value) → Nat
  | [] => 0
  | (_, value) :: rest => max value.height (heightOfEntries rest)

end

end EventScript.Toml
