import EventScript.Toml.Value

/-!
# Decoding of TOML values

How a value is taken for a text, a truth value, a number, a list, a dictionary or a record. A
record is written as a table, where it may have fields that nobody asks for, or as an array of its
fields in their order, the last of which may be left out where they have defaults.
-/
namespace EventScript.Toml

/-- What a value is taken for, or nothing where it is of another kind. -/
abbrev Decoder (α : Type) := Value → Option α

namespace Decoder

/-- A text. -/
def text : Decoder String
  | .text value => some value
  | _ => none

/-- A truth value. -/
def boolean : Decoder Bool
  | .boolean value => some value
  | _ => none

/-- A whole number up to a greatest one. -/
def natural (greatest : Nat) : Decoder Nat
  | .integer (.ofNat n) => if n ≤ greatest then some n else none
  | _ => none

/-- A list, every element of which is taken for the same. -/
def list (element : Decoder α) : Decoder (List α)
  | .array values => values.mapM element
  | _ => none

end Decoder

/-- The key under which a date or a time shows its normal form where a table is asked for. -/
def momentKey : String := "$__toml_private_datetime"

/-- The entries of a value that is a table or may be looked at as one. -/
def Value.entries? : Value → Option (List (String × Value))
  | .table entries => some entries
  | .moment normal => some [(momentKey, .text normal)]
  | _ => none

/-- A dictionary, every entry of which is taken for the same. -/
def Decoder.dictionary (entry : Decoder α) : Decoder (List (String × α)) := fun value => do
  (← value.entries?).mapM fun (key, value) => return (key, ← entry value)

/-- The fields of a record, by name or in order. -/
inductive Record where
  | named (entries : List (String × Value))
  | ordered (values : List Value)

/-- The record that a value is. -/
def Value.record? : Value → Option Record
  | .array values => some (.ordered values)
  | value => Record.named <$> value.entries?

namespace Record

/-- What a field holds, where the record has it. -/
def field? (record : Record) (position : Nat) (name : String) : Option Value :=
  match record with
  | named entries => entries.lookup name
  | ordered values => values[position]?

/-- A field that must be there. -/
def required (record : Record) (position : Nat) (name : String) (decoder : Decoder α) : Option α :=
  (record.field? position name).bind decoder

/-- A field with a default. -/
def defaulted (record : Record) (position : Nat) (name : String) (decoder : Decoder α)
    (default : α) : Option α :=
  match record.field? position name with
  | none => some default
  | some value => decoder value

end Record

end EventScript.Toml
