import EventScript.Toml.Reader

/-!
# Texts in TOML

The four ways to write a text. Between double quotes a backslash introduces an escape, between
single quotes every character stands for itself. Three quotes in place of one let a text run over
several lines: the line end right after them does not belong to the text, every other line end is a
line feed, and a quote or two of the same kind may stand anywhere, even before the three that
close.
-/
namespace EventScript.Toml

/-- The escapes of one letter. -/
def simpleEscape? : Char → Option Char
  | 'b' => some '\x08'
  | 't' => some '\t'
  | 'n' => some '\n'
  | 'f' => some '\x0C'
  | 'r' => some '\r'
  | '"' => some '"'
  | '\\' => some '\\'
  | _ => none

/-- The value of a digit, of which there may be as many as the base. -/
def digitValue? (base : Nat) (c : Char) : Option Nat :=
  let value :=
    if '0' ≤ c ∧ c ≤ '9' then c.toNat - '0'.toNat
    else if 'a' ≤ c ∧ c ≤ 'z' then c.toNat - 'a'.toNat + 10
    else if 'A' ≤ c ∧ c ≤ 'Z' then c.toNat - 'A'.toNat + 10
    else base
  if value < base then some value else none

/-- The number that digits write. -/
def numberOf? (base : Nat) (digits : List Char) : Option Nat :=
  digits.foldlM (fun number c => return number * base + (← digitValue? base c)) 0

/-- The character with a code, which must not be half of a surrogate pair. -/
def charOfCode? (digits : List Char) : Option Char := do
  let code ← numberOf? 16 digits
  if code.isValidChar then return Char.ofNat code else none

/-- Whether a line ends here. -/
def atLineEnd : List Char → Bool
  | '\n' :: _ => true
  | '\r' :: '\n' :: _ => true
  | _ => false

/-- After the three quotes that close a text, up to two more are its last characters. -/
def closing (quote : Char) (seen rest : List Char) : List Char × List Char :=
  match rest with
  | first :: second :: rest =>
    if first = quote ∧ second = quote then ((quote :: quote :: seen).reverse, rest)
    else if first = quote then ((quote :: seen).reverse, second :: rest)
    else (seen.reverse, first :: second :: rest)
  | [first] => if first = quote then ((quote :: seen).reverse, []) else (seen.reverse, [first])
  | [] => (seen.reverse, [])

/-- The inside of a text between double quotes, up to and with the closing ones. A backslash at the
end of a line removes the line end and all blanks and line ends after it, which is what `skipping`
remembers. -/
def basicBody (lines skipping : Bool) (seen : List Char) :
    List Char → Option (List Char × List Char)
  | [] => none
  | '"' :: rest =>
    if lines then
      match rest with
      | '"' :: '"' :: rest => some (closing '"' seen rest)
      | _ => basicBody lines false ('"' :: seen) rest
    else some (seen.reverse, rest)
  | '\\' :: rest =>
    if lines && atLineEnd (rest.dropWhile isSpace) then basicBody lines true seen rest
    else
      match rest with
      | 'u' :: a :: b :: c :: d :: rest => do
        basicBody lines false ((← charOfCode? [a, b, c, d]) :: seen) rest
      | 'U' :: a :: b :: c :: d :: e :: f :: g :: h :: rest => do
        basicBody lines false ((← charOfCode? [a, b, c, d, e, f, g, h]) :: seen) rest
      | letter :: rest => do basicBody lines false ((← simpleEscape? letter) :: seen) rest
      | [] => none
  | '\n' :: rest =>
    if lines then basicBody lines skipping (if skipping then seen else '\n' :: seen) rest else none
  | '\r' :: '\n' :: rest =>
    if lines then basicBody lines skipping (if skipping then seen else '\n' :: seen) rest else none
  | c :: rest =>
    if skipping && isSpace c then basicBody lines true seen rest
    else if isVisible c then basicBody lines false (c :: seen) rest
    else none

/-- The inside of a text between single quotes, up to and with the closing ones. -/
def literalBody (lines : Bool) (seen : List Char) : List Char → Option (List Char × List Char)
  | [] => none
  | '\'' :: rest =>
    if lines then
      match rest with
      | '\'' :: '\'' :: rest => some (closing '\'' seen rest)
      | _ => literalBody lines ('\'' :: seen) rest
    else some (seen.reverse, rest)
  | '\n' :: rest => if lines then literalBody lines ('\n' :: seen) rest else none
  | '\r' :: '\n' :: rest => if lines then literalBody lines ('\n' :: seen) rest else none
  | c :: rest => if isVisible c then literalBody lines (c :: seen) rest else none

/-- A text on one line, between quotes of either kind. -/
def lineText : Reader String := do
  match ← Reader.next with
  | '"' => return String.ofList (← (basicBody false false [] : Reader (List Char)))
  | '\'' => return String.ofList (← (literalBody false [] : Reader (List Char)))
  | _ => failure

/-- A text over several lines, between three quotes of either kind. -/
def linesText : Reader String := do
  let quote ← Reader.next
  Reader.word [quote, quote]
  let _ ← Reader.optionally newline
  match quote with
  | '"' => return String.ofList (← (basicBody true false [] : Reader (List Char)))
  | '\'' => return String.ofList (← (literalBody true [] : Reader (List Char)))
  | _ => failure

/-- A text in any way of writing. Three quotes are never an empty text and a further quote. -/
def text : Reader String := fun input =>
  match input with
  | first :: second :: third :: _ =>
    if first = second ∧ second = third then linesText input else lineText input
  | _ => lineText input

end EventScript.Toml
