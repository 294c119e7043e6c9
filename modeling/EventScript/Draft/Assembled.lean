import EventScript.Draft
import EventScript.Options

/-!
# The assembled text

The text of a finished script: the includes, the code area, the symbols of the script, the
reservation of the local actor where it is needed, and the body. A script with a jump to a label
that it never defines is not finished.
-/
namespace EventScript

/-- The number of words that the local actor takes on the stack. -/
def localActorSize : Nat := 4

/-- Whether a draft has its local actor reserved. -/
def Draft.reservesLocalActor (draft : Draft) (options : Options) : Bool :=
  match options.localActor with
  | .auto => draft.usesLocalActor
  | .always => true
  | .never => false

/-- The symbol through which instructions address the local actor. -/
def localActorSymbol : List String := ["ACTOR = -" ++ toString localActorSize, ""]

/-- The words that the local actor lives in are pushed before the body. -/
def localActorWords : List String :=
  (Assembly.margin ++ "; Local Actor") ::
    List.replicate localActorSize (Assembly.instruction "VM_PUSH_CONST" ["0"]) ++ [""]

/-- The lines before the body. -/
def Options.preamble (options : Options) (reserves : Bool) (name : String) (exported : Bool) :
    List String :=
  let bank := toString options.bank
  options.includes.map (fun path => ".include \"" ++ path ++ "\"") ++
    ["", ".area _CODE_" ++ bank, ""] ++
    (if reserves then localActorSymbol else []) ++
    ["___bank_" ++ name ++ " = " ++ bank, ".globl ___bank_" ++ name] ++
    (if exported then [".globl _" ++ name] else []) ++
    ["", "_" ++ name ++ "::"] ++
    (if reserves then localActorWords else [])

/-- Every line is ended, the last one too. -/
def joinLines (lines : List String) : String := String.intercalate "\n" lines ++ "\n"

/-- The text of a draft under a name. The earliest jump without a label is reported. -/
def Draft.assemble (draft : Draft) (options : Options) (name : String) (exported : Bool) :
    Except Fault String :=
  match draft.ledger.unresolved with
  | label :: _ => .error (.undefinedLabel (Ledger.symbol label))
  | [] =>
    let preamble := options.preamble (draft.reservesLocalActor options) name exported
    .ok (joinLines (preamble ++ draft.lines))

end EventScript
