import ShaderLift.Component
import ShaderLift.Instruction.Basic
import ShaderLift.Text.Integer
import ShaderLift.Text.Printable

namespace ShaderLift

inductive DeclarationFault where
  | unnamedBuffer
  | unnamedStructure
  | shortVariable (required found : Nat)
  | shortBinding (required found : Nat)
  | shortSignature (required found : Nat)
  | badNumber (what text : Text)
  | badSlot (text : Text)
  deriving DecidableEq

inductive DecodeFault where
  | endOfListing
  | openParenthesis
  | missingOperand (mnemonic : Option Text)
  | emptyLiteral
  | integerExpected (found : Text)
  | constantsWithoutBrace
  | strayConstant (text : Text)
  | missingComponent (literal : Text) (component : Component)
  deriving DecidableEq

inductive Imbalance where
  | unmatchedClose (marker : Text) (block : Block)
  | strayElse
  | openAtEnd (depth : Int) (blocks : Nat)
  deriving DecidableEq

inductive Fault where
  | declaration (cause : DeclarationFault) (line : Int)
  | decode (cause : DecodeFault) (line : Option Int)
  | imbalance (cause : Imbalance) (line : Option Int)
  | missingStage
  /-- A pattern holds a letter that names no component. -/
  | unknownLetter
  /-- A character outside a text is asked for, such as the letter of a fifth component. -/
  | characterRange
  | indexRange
  | badInteger (text : Text) (issue : Text.IntegerIssue)
  | unwritableInteger
  /-- A definition line holds nothing but comment marks. -/
  | emptyDefinition
  /-- A token in front of the first one is asked for. -/
  | tokenRange
  | emptyDimension
  /-- Structures nest too deeply, as they do when one contains itself: the host has no room for a
  further call, be it one of the library or of a native function. -/
  | endlessStructure {native : Bool}
  deriving DecidableEq

def DeclarationFault.message : DeclarationFault → Text
  | .unnamedBuffer => "Buffer declaration without name"
  | .unnamedStructure => "Struct declaration without name"
  | .shortVariable required found =>
    "Expected at least " ++ Text.ofNat required ++ " fields in variable declaration, got " ++
      Text.ofNat found
  | .shortBinding required found =>
    "Expected " ++ Text.ofNat required ++ " fields in resource binding, got " ++ Text.ofNat found
  | .shortSignature required found =>
    "Expected at least " ++ Text.ofNat required ++ " fields in signature, got " ++ Text.ofNat found
  | .badNumber what text => "Invalid " ++ what ++ " '" ++ text ++ "'"
  | .badSlot text => "Invalid bind slot '" ++ text ++ "'"

def DecodeFault.message : DecodeFault → Text
  | .endOfListing => "Unexpected end of listing"
  | .openParenthesis => "Unterminated parenthesis"
  | .missingOperand mnemonic => "Missing operand for '" ++ mnemonic.getD "instruction" ++ "'"
  | .emptyLiteral => "Empty literal"
  | .integerExpected found => "Expected integer operand, got '" ++ found ++ "'"
  | .constantsWithoutBrace => "Expected '\x7b' after dcl_immediateConstantBuffer"
  | .strayConstant text => "Unexpected '" ++ text ++ "' in immediate constant buffer"
  | .missingComponent literal component =>
    "Literal " ++ literal ++ " has no component " ++ [component.letter]

def Imbalance.message : Imbalance → Text
  | .unmatchedClose marker block =>
    "'" ++ marker ++ "' does not close an open " ++ block.name ++ " block"
  | .strayElse => "'else' without an open if block"
  | .openAtEnd depth blocks =>
    "Control flow ends at depth " ++ Text.ofInt depth ++ " with " ++ Text.ofNat blocks ++
      " open blocks"

namespace Fault

def located (message : Text) : Option Int → Text
  | some line => message ++ " at line " ++ Text.ofInt line
  | none => message

/-- The quoted text in the message on a bad integer is cut at this length. -/
def quotedLimit : Nat := 200

def message : Fault → Text
  | declaration cause line => located cause.message line
  | decode cause line => located cause.message line
  | imbalance cause line => located cause.message line
  | missingStage => "No shader stage tag found in listing"
  | unknownLetter => "substring not found"
  | characterRange => "string index out of range"
  | indexRange => "cannot fit 'int' into an index-sized integer"
  | badInteger text .malformed =>
    "invalid literal for int() with base 10: " ++ (Text.quoted text).take quotedLimit
  | badInteger _ (.tooLong digits) =>
    "Exceeds the limit (" ++ Text.ofNat Text.maxIntegerDigits ++
      " digits) for integer string conversion: value has " ++ Text.ofNat digits ++
      " digits; use sys.set_int_max_str_digits() to increase the limit"
  | unwritableInteger =>
    "Exceeds the limit (" ++ Text.ofNat Text.maxIntegerDigits ++
      " digits) for integer string conversion; use sys.set_int_max_str_digits() to increase the limit"
  | emptyDefinition => "list index out of range"
  | tokenRange => "list index out of range"
  | emptyDimension => "integer modulo by zero"
  | @endlessStructure native =>
    "maximum recursion depth exceeded" ++
      (if native then " while calling a Python object" else "" : Text)

/-- Whether a conversion reports the fault itself; any other breaks the conversion off. -/
def isReported : Fault → Bool
  | declaration .. | decode .. | imbalance .. | missingStage => true
  | _ => false

def readInteger (text : Text) : Except Fault Int :=
  match Text.toInt text with
  | .ok value => .ok value
  | .error issue => .error (badInteger text issue)

def readDecimals (digits : Text) : Except Fault Nat :=
  if Text.maxIntegerDigits < digits.length then
    .error (badInteger digits (.tooLong digits.length))
  else .ok (Text.decimalsValue digits)

def writeInteger (n : Int) : Except Fault Text :=
  if Text.isWritable n then .ok (Text.ofInt n) else .error unwritableInteger

def indexBound : Nat := Nat.pow 2 63

/-- The place that an index names in a sequence. A negative index counts from the end. -/
def placeAt (length : Nat) (index : Int) (outside : Fault) : Except Fault Nat :=
  let place := if index < 0 then index + length else index
  if index < -indexBound ∨ indexBound ≤ index then .error indexRange
  else if place < 0 ∨ length ≤ place then .error outside
  else .ok place.toNat

end Fault
end ShaderLift
