import ShaderLift.Fault
import ShaderLift.Text.Word

namespace ShaderLift.Operand

/-- An index that is not a plain number: the index register read as an integer, and what is added
to it. -/
structure RelativeIndex where
  register : Text
  offset : Int
  deriving DecidableEq

def addedDigits? (text : Text) : Option Text :=
  match Text.trimStart text with
  | '+' :: rest =>
    let digits := Text.trimStart rest
    if !digits.isEmpty && digits.all Text.isDecimal then some digits else none
  | _ => none

def relativeIndex? (index : Text) : Except Fault (Option RelativeIndex) :=
  let text := Text.trim index
  let isRegister := fun c => !Text.isBlank c && c != '+'
  let name := text.takeWhile isRegister
  let rest := text.dropWhile isRegister
  let view : Text := "asuint(" ++ name ++ ")"
  if Text.allDigits text || name.isEmpty then .ok none
  else if rest.isEmpty then .ok (some ⟨view, 0⟩)
  else
    match addedDigits? rest with
    | none => .ok none
    | some digits => (Fault.readInteger digits).map fun offset => some ⟨view, offset⟩

structure Indexed where
  register : Text
  index : Text
  rest : Text
  deriving DecidableEq

/-- Takes an indexed register apart; one newline may end the text. -/
def indexed? (operand : Text) : Option Indexed :=
  let register := operand.takeWhile Text.isWord
  match register.head?, operand.dropWhile Text.isWord with
  | some start, '[' :: behind =>
    let isInside := fun c => c != '[' && c != ']'
    let index := behind.takeWhile isInside
    match behind.dropWhile isInside with
    | ']' :: tail =>
      let rest := Text.dropFinalNewline tail
      if !Text.isNameStart start || index.isEmpty || rest.contains '\n' then none
      else some ⟨register, index, rest⟩
    | _ => none
  | _, _ => none

def normalizeIndexed (operand : Text) : Except Fault Text :=
  match indexed? operand with
  | none => .ok operand
  | some parts => do
    match ← relativeIndex? parts.index with
    | none => return operand
    | some relative =>
      let index :=
        if relative.offset = 0 then relative.register
        else relative.register ++ " + " ++ Text.ofInt relative.offset
      return parts.register ++ "[" ++ index ++ "]" ++ parts.rest

end ShaderLift.Operand
