import EventScript.Assembly.Comparison
import EventScript.Ledger

/-!
# Lines of assembly

What a script writes, kept by meaning until it is rendered: an operand remembers whether it is a
number, a label or a cell of the local actor, and a line whether it jumps, branches or defines a
label. Each line has one rendering. A literal stands between double quotes on one line: inside it a
backslash takes the special meaning from a backslash or a double quote and turns `n` into a line
end.
-/
namespace EventScript.Assembly

/-- The left margin of instructions, comments and literals. -/
def margin : String := "        "

/-- The width of the column of mnemonics, counted in bytes. -/
def mnemonicWidth : Nat := 24

/-- A gap of the given number of spaces. -/
def gap (width : Nat) : String := String.ofList (List.replicate width ' ')

/-- An instruction with its operands in their own column, at least one space after a mnemonic that
is too long for it. Without operands nothing follows the mnemonic. -/
def instruction (mnemonic : String) (operands : List String) : String :=
  match operands with
  | [] => margin ++ mnemonic
  | _ =>
    margin ++ mnemonic ++ gap (max 1 (mnemonicWidth - mnemonic.utf8ByteSize)) ++
      String.intercalate ", " operands

/-- An expression that the assembler works out. -/
def expression (text : String) : String := "^/(" ++ text ++ ")/"

/-- Flags joined into one operand. No flag at all is zero, and one flag needs no expression. -/
def flags : List String → String
  | [] => "0"
  | [flag] => flag
  | several => expression (String.intercalate " | " several)

/-- An operand of an instruction. -/
inductive Operand where
  | text (words : String)
  | number (value : Int)
  | label (name : String)
  /-- A field of the local actor, addressed from the top of the stack. The actor lies below the
  words that the script has pushed, whose number is therefore taken off. -/
  | actor (field depth : Nat)
deriving DecidableEq, Repr

/-- The written form of an operand. A term that is zero is left out. -/
def Operand.render : Operand → String
  | text words => words
  | number value => toString value
  | label name => Ledger.symbol name
  | actor 0 0 => "ACTOR"
  | actor 0 depth => expression ("ACTOR - " ++ toString depth)
  | actor field 0 => expression ("ACTOR + " ++ toString field)
  | actor field depth => expression ("ACTOR + " ++ toString field ++ " - " ++ toString depth)

/-- The written form of one character inside a literal. -/
def escapeChar (c : Char) : List Char :=
  match c with
  | '\\' => ['\\', '\\']
  | '"' => ['\\', '"']
  | '\n' => ['\\', 'n']
  | _ => [c]

/-- The written form of a text inside a literal. -/
def escape (text : String) : String := String.ofList (text.toList.flatMap escapeChar)

/-- A line of the body of a script. -/
inductive Line where
  | comment (text : String)
  | instruction (mnemonic : String) (operands : List Operand)
  /-- Goes on at the target when the comparison of the operand with the value holds. -/
  | branch (comparison : Comparison) (operand : String) (value : Int) (target : String)
  | jump (target : String)
  | label (name : String)
  | stop
  | literal (text : String)
  /-- A line that the caller has written. -/
  | raw (text : String)
  | blank
deriving DecidableEq, Repr

/-- The written form of a line. -/
def Line.render : Line → String
  | comment text => margin ++ "; " ++ text
  | instruction mnemonic operands => Assembly.instruction mnemonic (operands.map Operand.render)
  | branch comparison operand value target =>
    Assembly.instruction ("VM_IF_CONST " ++ comparison.symbol)
      [operand, toString value, Ledger.symbol target, "0"]
  | jump target => Assembly.instruction "VM_JUMP" [Ledger.symbol target]
  | label name => Ledger.symbol name ++ ":"
  | stop => Assembly.instruction "VM_STOP" []
  | literal text => margin ++ ".asciz \"" ++ escape text ++ "\""
  | raw text => text
  | blank => ""

end EventScript.Assembly
