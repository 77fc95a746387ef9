import ShaderLift.Proofs.Structured.Turn
import ShaderLift.Proofs.Text.Integers

namespace ShaderLift

open Operand

/-- A word as it is indexed: by a number, or by a byte offset that is shifted down to words, with a
number of further words. -/
inductive WordIndex where
  | constant (word : Nat)
  | shifted (offset : Text) (further : Nat)
  deriving DecidableEq

namespace WordIndex

def text : WordIndex → Text
  | constant word => Text.ofNat word
  | shifted offset further =>
    if further = 0 then offset ++ " >> 2" else "(" ++ offset ++ " >> 2) + " ++ Text.ofNat further

/-- The word that is reached, given the values of the integer expressions. -/
def reached (values : Text → Nat) : WordIndex → Nat
  | constant word => word
  | shifted offset further => values offset >>> 2 + further

end WordIndex

/-- What addresses group-shared memory: an array, the index of an element unless the array is raw, and
a byte offset. -/
structure SharedAddress where
  base : Text
  index : Option ReadOperand
  offset : ReadOperand

namespace SharedAddress

/-- Whether the offset is a literal in decimal digits. -/
def isLiteral (a : SharedAddress) : Bool := Text.allDigits a.offset.text

/-- The byte offset, given the values of the integer expressions. -/
def byte (values : Text → Nat) (a : SharedAddress) : Nat :=
  if a.isLiteral then Text.decimalsValue a.offset.text
  else values (asInteger a.offset.text .unsigned)

/-- The word at the offset, with as many further words as a component has in front of it. -/
def wordAt (a : SharedAddress) (c : Component) : WordIndex :=
  if a.isLiteral then .constant (Text.decimalsValue a.offset.text / 4 + c.index)
  else .shifted (asInteger a.offset.text .unsigned) c.index

/-- A word of the array as it is accessed. -/
def access (a : SharedAddress) (word : WordIndex) : Text :=
  match a.index with
  | none => a.base ++ "[" ++ word.text ++ "]"
  | some index => a.base ++ "[" ++ asInteger index.text .unsigned ++ "][" ++ word.text ++ "]"

theorem reached_wordAt (values : Text → Nat) (a : SharedAddress) (c : Component) :
    (a.wordAt c).reached values = a.byte values / 4 + c.index := by
  unfold wordAt byte
  split
  · rfl
  · rw [WordIndex.reached, Nat.shiftRight_eq_div_pow]

/-- The array is declared, with elements of no words exactly if it is raw. -/
def IsDeclared (context : Context) (a : SharedAddress) : Prop :=
  ∃ words, context.sharedMemory.get? a.base = some words ∧ (words = 0 ↔ a.index = none)

/-- A literal offset can be read as a number. -/
def IsReadable (a : SharedAddress) : Prop := a.isLiteral = true → Text.IsDigits a.offset.text

end SharedAddress

/-- An instruction on group-shared memory. The array and, for an atomic operation, the address are
given as they are listed. A store splits its value into one part for each component. -/
inductive SharedInstruction where
  | load (address : SharedAddress) (array : Text) (target : ReadOperand)
      (mask selected : List Component)
  | store (address : SharedAddress) (array : Text) (mask : List Component) (source : ReadOperand)
      (parts : List Text)
  | atomic (address : SharedAddress) (array place : Text) (values : List ReadOperand)
  | atomicReturning (address : SharedAddress) (array place : Text) (target : ReadOperand)
      (values : List ReadOperand)

namespace SharedInstruction

def address : SharedInstruction → SharedAddress
  | load address .. => address
  | store address .. => address
  | atomic address .. => address
  | atomicReturning address .. => address

def isAtomic : SharedInstruction → Bool
  | load .. => false
  | store .. => false
  | atomic .. => true
  | atomicReturning .. => true

def family : SharedInstruction → Family
  | load address .. => if address.index.isNone then .loadRaw else .loadStructured
  | store address .. => if address.index.isNone then .storeRaw else .storeStructured
  | atomic .. => .atomic
  | atomicReturning .. => .atomicReturning

/-- The components of the array that are accessed; an atomic operation has the first one. -/
def lanes : SharedInstruction → List Component
  | load _ _ _ mask selected => mask.map (letterAt selected)
  | store _ _ mask _ _ => mask
  | atomic .. => [.x]
  | atomicReturning .. => [.x]

/-- Loads and stores of elements count only literal offsets. -/
def dropsOffset (i : SharedInstruction) : Bool :=
  !i.isAtomic && i.address.index.isSome && !i.address.isLiteral

/-- The word that is accessed for a component. -/
def wordFor (i : SharedInstruction) (c : Component) : WordIndex :=
  if i.dropsOffset then .constant c.index else i.address.wordAt c

theorem dropsOffset_eq_false_iff (i : SharedInstruction) :
    i.dropsOffset = false ↔
      i.isAtomic = true ∨ i.address.index = none ∨ i.address.isLiteral = true := by
  simp only [dropsOffset, Bool.and_eq_false_iff, Bool.not_eq_false', Option.isSome_eq_false_iff,
    Option.isNone_iff_eq_none, or_assoc]

theorem wordFor_of_keeps {i : SharedInstruction} (keeps : i.dropsOffset = false) (c : Component) :
    i.wordFor c = i.address.wordAt c := by
  rw [wordFor, keeps]
  rfl

/-- The words are the ones at the byte offset, unless the offset is left out and reaches behind the
first word. -/
theorem forall_reached_iff (i : SharedInstruction) (filled : i.lanes ≠ []) (values : Text → Nat) :
    (∀ c ∈ i.lanes, (i.wordFor c).reached values = i.address.byte values / 4 + c.index) ↔
      i.dropsOffset = false ∨ i.address.byte values < 4 := by
  cases drops : i.dropsOffset with
  | false => simp [wordFor_of_keeps drops, SharedAddress.reached_wordAt]
  | true =>
    have each (c : Component) : (i.wordFor c).reached values = i.address.byte values / 4 + c.index ↔
        i.address.byte values < 4 := by
      simp only [wordFor, drops, if_true, WordIndex.reached]
      omega
    obtain ⟨c, inside⟩ := List.exists_mem_of_ne_nil _ filled
    simp only [each, Bool.true_eq_false, false_or]
    exact ⟨fun all => all c inside, fun small _ _ => small⟩

end SharedInstruction

namespace Operand

/-- Decimal digits are a number. -/
theorem isNumber_digits {digits : Text} (number : Text.IsDigits digits) :
    isNumber digits = true := by
  have each := number.decimal
  have notMem {c : Char} (other : Text.isDecimal c = false) : c ∉ digits := by
    intro inside
    rw [each c inside] at other
    cases other
  have taken : Text.spanDecimals digits = (digits, []) := by
    rw [Text.spanDecimals, List.takeWhile_eq_self_iff.mpr each,
      List.dropWhile_eq_nil_iff.mpr each]
  have decimal : isDecimalNumber digits = true := by
    unfold isDecimalNumber
    rw [taken]
    split
    · rename_i same
      exact absurd (Prod.mk.inj same).1 number.nonempty
    · rename_i same
      exact absurd (Prod.mk.inj same).1 number.nonempty
    · rename_i same
      cases (Prod.mk.inj same).2
    · rename_i same
      rw [← (Prod.mk.inj same).2]
      rfl
  unfold isNumber
  rw [Text.dropFinalNewline_of_notMem _ (notMem (by decide))]
  split
  · exact absurd (List.mem_cons_self ..) (notMem (c := '+') (by decide))
  · exact absurd (List.mem_cons_self ..) (notMem (c := '-') (by decide))
  · unfold isUnsigned
    split
    · rename_i mark rest
      rw [if_neg]
      · exact decimal
      · intro marked
        simp only [Bool.or_eq_true, decide_eq_true_eq] at marked
        rcases marked with rfl | rfl
        · exact notMem (c := 'x') (by decide) (by simp)
        · exact notMem (c := 'X') (by decide) (by simp)
    · exact decimal

/-- Decimal digits stay as they are. -/
theorem asInteger_digits {digits : Text} (number : Text.IsDigits digits) (view : IntegerView) :
    asInteger digits view = digits := by
  have numeric := isNumber_digits number
  have unpointed : '.' ∉ digits := fun inside => absurd (number.each _ inside) (by decide)
  unfold asInteger literal?
  rw [if_pos numeric]
  simp [unpointed, numeric]

/-- What is no run of digits does not become one as an integer. -/
theorem allDigits_asInteger {text : Text} (other : Text.allDigits text = false)
    (view : IntegerView) : Text.allDigits (asInteger text view) = false := by
  have called {call : Text} (opened : '(' ∈ call) : Text.allDigits call = false := by
    have undigit : Text.isDigit '(' = false := by decide
    have some : call.all Text.isDigit = false := List.all_eq_false.mpr ⟨'(', opened, by simp [undigit]⟩
    rw [Text.allDigits, some, Bool.and_false]
  unfold asInteger
  split
  · split
    · exact called (by simp)
    · split
      · exact other
      · exact called (by simp)
  · exact called (by simp)

end Operand

namespace SharedAddress

variable {a : SharedAddress}

/-- A word that is reached from a literal offset can be written. -/
theorem isWritable_word {digits : Text} (number : Text.IsDigits digits) (c : Component) :
    Text.isWritable ((Text.decimalsValue digits / 4 + c.index : Nat) : Int) = true := by
  have short : Text.isWritable (Text.decimalsValue digits : Nat) = true :=
    Text.isWritable_of_toInt (Text.IsNumeral.plain number).toInt_eq
  have least := Text.isWritable_of_lt 9 (by decide) (by decide)
  have small := c.index_lt
  simp only [Text.isWritable, decide_eq_true_eq, Int.natAbs_natCast] at short least ⊢
  generalize Text.writableBound = bound at short least ⊢
  omega

/-- The byte address of a raw array, and of an atomic operation on it, leads to its word. -/
theorem wordIndex_eq (readable : a.IsReadable) (c : Component) :
    Decoding.wordIndex (asInteger a.offset.text .unsigned) c.index = .ok (a.wordAt c).text := by
  unfold Decoding.wordIndex wordAt
  cases literal : a.isLiteral with
  | true =>
    have number := readable literal
    have value := Fault.readInteger_digits _ number.nonempty number.each number.short
    have word : (Int.fdiv (Text.decimalsValue a.offset.text : Nat) 4 + (c.index : Int)) =
        (Text.decimalsValue a.offset.text / 4 + c.index : Nat) := by
      rw [Int.fdiv_eq_ediv_of_nonneg _ (by decide)]
      omega
    have digits : Text.allDigits a.offset.text = true := literal
    rw [asInteger_digits number, if_pos digits, value]
    simp only [bind, Except.bind, word, Fault.writeInteger, isWritable_word number c, if_true]
    rfl
  | false =>
    rw [if_neg (by simp [allDigits_asInteger literal])]
    have further : Text.isWritable (c.index : Int) = true := by
      have small := c.index_lt
      exact Text.isWritable_of_lt _ (by omega) (by omega)
    by_cases first : c.index = 0
    · simp only [first, Int.ofNat_zero, if_true, Bool.false_eq_true, if_false, WordIndex.text]
      rfl
    · rw [if_neg (by omega)]
      simp only [Fault.writeInteger, further, if_true, Bool.false_eq_true, if_false, WordIndex.text,
        first]
      rfl

/-- Loads and stores of elements take any offset but a literal for zero. -/
theorem firstWord_eq (readable : a.IsReadable) :
    Decoding.firstWord a.offset.text =
      .ok (if a.isLiteral then (Text.decimalsValue a.offset.text / 4 : Nat) else 0 : Int) := by
  unfold Decoding.firstWord
  cases literal : a.isLiteral with
  | true =>
    have number := readable literal
    have value := Fault.readInteger_digits _ number.nonempty number.each number.short
    have digits : Text.allDigits a.offset.text = true := literal
    rw [if_pos digits, value, if_pos rfl]
    simp only [Except.map, Int.fdiv_eq_ediv_of_nonneg _ (show (0 : Int) ≤ 4 by decide)]
    rfl
  | false =>
    rw [if_neg (by simpa [isLiteral] using literal)]
    rfl

end SharedAddress
end ShaderLift
