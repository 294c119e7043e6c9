import EventScript.Arg
import EventScript.Toml.Text
import EventScript.Toml.Value

/-!
# Numbers in TOML

Whole numbers in four bases, which fit in a signed word of 64 bits, and binary floating-point
numbers, which may be too large for their format on the negative side only. A single underscore may
stand between two digits, and the digits before the point have no leading zeros.
-/
namespace EventScript.Toml

/-- What follows the first digit of a number, underscores left out. -/
def laterDigits (base : Nat) : List Char → List Char × List Char
  | '_' :: c :: rest =>
    if (digitValue? base c).isSome then
      let (digits, rest) := laterDigits base rest
      (c :: digits, rest)
    else ([], '_' :: c :: rest)
  | c :: rest =>
    if (digitValue? base c).isSome then
      let (digits, rest) := laterDigits base rest
      (c :: digits, rest)
    else ([], c :: rest)
  | [] => ([], [])

/-- One digit or more. -/
def digits (base : Nat) : Reader (List Char) := do
  let first ← Reader.oneOf fun c => (digitValue? base c).isSome
  let others ← (some ∘ laterDigits base : Reader (List Char))
  return first :: others

/-- One digit or more, the first of which is zero only where it is the only one. -/
def wholeDigits : Reader (List Char) := do
  match ← Reader.peek with
  | some '0' => do
    Reader.char '0'
    return ['0']
  | _ => digits 10

/-- An optional sign, kept as it is written. -/
def sign : Reader (List Char) := do
  match ← Reader.peek with
  | some '+' => do
    Reader.char '+'
    return ['+']
  | some '-' => do
    Reader.char '-'
    return ['-']
  | _ => return []

/-- Whether a number fits in a signed word of 64 bits. -/
def fitsWord (n : Int) : Bool := (Interval.signed 64).holds n

/-- A whole number of the given base after its two-letter mark. Such numbers have no sign. -/
def marked (base : Nat) (mark : Char) : Reader Int := do
  Reader.word ['0', mark]
  let n ← numberOf? base (← digits base)
  if fitsWord n then return n else failure

/-- A whole number in decimal. -/
def decimal : Reader Int := do
  let sign ← sign
  let n ← numberOf? 10 (← wholeDigits)
  let n : Int := if sign = ['-'] then -n else n
  if fitsWord n then return n else failure

/-- A whole number. -/
def integer : Reader Int := marked 16 'x' <|> marked 8 'o' <|> marked 2 'b' <|> decimal

/-- Whether the number `coefficient · 10 ^ exponent` rounds to infinity in the format of 64 bits.
The bound lies half a unit above the largest finite number. Numbers whose count of digits already
decides are not multiplied out. -/
def roundsToInfinity (coefficient : Nat) (exponent : Int) : Bool :=
  let length : Int := (Nat.toDigits 10 coefficient).length
  let bound := Nat.pow 2 1024 - Nat.pow 2 970
  if coefficient = 0 || length + exponent < 300 then false
  else if 320 < length + exponent then true
  else if 0 ≤ exponent then bound ≤ coefficient * Nat.pow 10 exponent.toNat
  else bound * Nat.pow 10 (-exponent).toNat ≤ coefficient

/-- The exponent of a floating-point number with its mark. -/
def exponent : Reader (List Char × Int) := do
  let mark ← Reader.oneOf fun c => c == 'e' || c == 'E'
  let sign ← sign
  let digits ← digits 10
  let n ← numberOf? 10 digits
  return (mark :: sign ++ digits, if sign = ['-'] then -n else n)

/-- A floating-point number has a fraction, an exponent or both. -/
def finite : Reader String := do
  let sign ← sign
  let whole ← wholeDigits
  let fraction ← Reader.optionally do
    Reader.char '.'
    digits 10
  let scale ← Reader.optionally exponent
  if fraction.isNone && scale.isNone then failure
  let shown := match fraction with
    | some digits => '.' :: digits
    | none => []
  let fraction := fraction.getD []
  let (mark, scale) := scale.getD ([], 0)
  let coefficient ← numberOf? 10 (whole ++ fraction)
  if sign ≠ ['-'] && roundsToInfinity coefficient (scale - fraction.length) then failure
  return String.ofList (sign ++ whole ++ shown ++ mark)

/-- Infinity and the undefined number, with or without a sign. -/
def nonFinite : Reader String := do
  let sign ← sign
  let name ← (do Reader.word ['i', 'n', 'f']; return ['i', 'n', 'f']) <|>
    (do Reader.word ['n', 'a', 'n']; return ['n', 'a', 'n'])
  return String.ofList (sign ++ name)

/-- A number. A whole number is one only where no fraction or exponent follows. -/
def number : Reader Value :=
  (.float <$> (finite <|> nonFinite)) <|> (.integer <$> integer)

end EventScript.Toml
