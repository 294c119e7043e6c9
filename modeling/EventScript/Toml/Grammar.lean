import EventScript.Toml.Moment
import EventScript.Toml.Number
import EventScript.Toml.Table

/-!
# The grammar of TOML

Keys, values, statements and whole texts. Nesting is bounded: a key has fewer than eighty parts, and
fewer than eighty arrays and inline tables lie around a value.
-/
namespace EventScript.Toml

/-- Keys without quotes are made of these characters. -/
def isBare (c : Char) : Bool := c.isAlphanum || c == '_' || c == '-'

/-- How deep keys and values may be nested. -/
def nestingLimit : Nat := 79

/-- One part of a key. -/
def keyPart : Reader String := do
  match ← Reader.peek with
  | some '"' | some '\'' => lineText
  | _ => return String.ofList (← Reader.spanSome isBare)

/-- A key of at most so many parts, with points between them. -/
def keyUpTo : Nat → Reader Key
  | 0 => failure
  | bound + 1 => do
    spaces
    let name ← keyPart
    spaces
    match ← Reader.peek with
    | some '.' => do
      Reader.char '.'
      let key ← keyUpTo bound
      return { key with path := name :: key.path }
    | _ => return { path := [], last := name }

/-- A key. -/
def key : Reader Key := keyUpTo nestingLimit

/-- A key and its value, in which the reader of values is left open. -/
def assignment (value : Reader Value) : Reader (Key × Value) := do
  let key ← key
  Reader.char '='
  spaces
  let value ← value
  spaces
  return (key, value)

/-- What may stand between the elements of an array: blanks, line ends and comments. -/
def filler (bound : Nat) : Reader Unit := do
  let _ ← Reader.many (Reader.oneOf isSpace *> pure () <|> newline <|> (comment *> lineEnd)) bound

/-- An array. A comma may follow the last element. -/
def array (bound : Nat) (value : Reader Value) : Reader Value := do
  Reader.char '['
  let element := filler bound *> value <* filler bound
  let values ← Reader.optionally do
    let values ← Reader.separated element (Reader.char ',') bound
    let _ ← Reader.optionally (Reader.char ',')
    return values
  filler bound
  Reader.char ']'
  return .array (values.getD [])

/-- A table on one line. No comma may follow its last entry. -/
def inlineTable (bound : Nat) (value : Reader Value) : Reader Value := do
  Reader.char '{'
  let assignments ← Reader.optionally
    (Reader.separated (assignment value) (Reader.char ',') bound)
  spaces
  Reader.char '}'
  let entries ← tableOfAssignments? (assignments.getD [])
  return .table (entriesToValues entries)

/-- A truth value. -/
def boolean : Reader Value :=
  (do Reader.word "true".toList; return .boolean true) <|>
    (do Reader.word "false".toList; return .boolean false)

/-- A value that holds no others. -/
def scalar : Reader Value := do
  match ← Reader.peek with
  | some '"' | some '\'' => .text <$> text
  | _ => boolean <|> moment <|> number

/-- A value with at most so many arrays and inline tables around any other. -/
def value (bound : Nat) : Nat → Reader Value
  | 0 => scalar
  | levels + 1 => do
    match ← Reader.peek with
    | some '[' => array bound (value bound levels)
    | some '{' => inlineTable bound (value bound levels)
    | _ => scalar

/-- A header of a table or of an element of an array of tables. -/
def header : Reader Statement := element <|> table
where
  element : Reader Statement := do
    Reader.word ['[', '[']
    let key ← key
    Reader.word [']', ']']
    return .element key
  table : Reader Statement := do
    Reader.char '['
    let key ← key
    Reader.char ']'
    return .header key

/-- The statements of a text, one on a line, and comments and empty lines between them. Each step
takes a character, so the number of characters bounds the steps. -/
def statements (bound : Nat) : Nat → Reader (List Statement)
  | 0 => failure
  | steps + 1 => do
    spaces
    match ← Reader.peek with
    | none => return []
    | some '#' => do
      comment
      lineEnd
      statements bound steps
    | some '\n' | some '\r' => do
      newline
      statements bound steps
    | some '[' => do
      let header ← header
      trailing
      return header :: (← statements bound steps)
    | some _ => do
      let (key, value) ← assignment (value bound nestingLimit)
      trailing
      return .assign key value :: (← statements bound steps)

/-- A byte order mark may stand before a text. -/
def dropMark : List Char → List Char
  | '\uFEFF' :: rest => rest
  | chars => chars

/-- The table that a text stands for. -/
def parse? (source : String) : Option Value := do
  let chars := dropMark source.toList
  let (statements, _) ← statements chars.length (chars.length + 1) chars
  let entries ← tableOfStatements? [] [] statements
  return .table (entriesToValues entries)

end EventScript.Toml
