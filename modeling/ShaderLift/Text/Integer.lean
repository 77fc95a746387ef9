import ShaderLift.Text.Basic

namespace ShaderLift.Text

/-- The code points of the digit zero outside the first block; nine more digits follow each. -/
def decimalZeros : List Nat :=
  [0x660, 0x6f0, 0x7c0, 0x966, 0x9e6, 0xa66, 0xae6, 0xb66, 0xbe6, 0xc66, 0xce6, 0xd66, 0xde6,
    0xe50, 0xed0, 0xf20, 0x1040, 0x1090, 0x17e0, 0x1810, 0x1946, 0x19d0, 0x1a80, 0x1a90, 0x1b50,
    0x1bb0, 0x1c40, 0x1c50, 0xa620, 0xa8d0, 0xa900, 0xa9d0, 0xa9f0, 0xaa50, 0xabf0, 0xff10,
    0x104a0, 0x10d30, 0x11066, 0x110f0, 0x11136, 0x111d0, 0x112f0, 0x11450, 0x114d0, 0x11650,
    0x116c0, 0x11730, 0x118e0, 0x11950, 0x11c50, 0x11d50, 0x11da0, 0x16a60, 0x16ac0, 0x16b50,
    0x1d7ce, 0x1d7d8, 0x1d7e2, 0x1d7ec, 0x1d7f6, 0x1e140, 0x1e2f0, 0x1e950, 0x1fbf0]

/-- The digits that are not decimal digits, as closed ranges of code points. -/
def signDigitRanges : List (Nat × Nat) :=
  [(0xb2, 0xb3), (0xb9, 0xb9), (0x1369, 0x1371), (0x19da, 0x19da), (0x2070, 0x2070),
    (0x2074, 0x2079), (0x2080, 0x2089), (0x2460, 0x2468), (0x2474, 0x247c), (0x2488, 0x2490),
    (0x24ea, 0x24ea), (0x24f5, 0x24fd), (0x24ff, 0x24ff), (0x2776, 0x277e), (0x2780, 0x2788),
    (0x278a, 0x2792), (0x10a40, 0x10a43), (0x10e60, 0x10e68), (0x11052, 0x1105a),
    (0x1f100, 0x1f10a)]

def decimalValue? (c : Char) : Option Nat :=
  let n := c.toNat
  if n < 0x80 then if 0x30 ≤ n && n ≤ 0x39 then some (n - 0x30) else none
  else (decimalZeros.find? fun base => base ≤ n && n ≤ base + 9).map (n - ·)

def isDecimal (c : Char) : Bool := (decimalValue? c).isSome

/-- A digit in the wide sense: a decimal digit or one without place value. -/
def isDigit (c : Char) : Bool := isDecimal c || inRanges signDigitRanges c

def allDigits (text : Text) : Bool := !text.isEmpty && text.all isDigit

def decimalsValue (digits : Text) : Nat :=
  digits.foldl (fun value c => 10 * value + (decimalValue? c).getD 0) 0

def spanDecimals (text : Text) : Text × Text := (text.takeWhile isDecimal, text.dropWhile isDecimal)

inductive IntegerIssue where
  | malformed
  | tooLong (digits : Nat)
  deriving DecidableEq

/-- The most digits an integer may be written with. -/
def maxIntegerDigits : Nat := 4300

def writableBound : Nat := Nat.pow 10 maxIntegerDigits

def isWritable (n : Int) : Bool := n.natAbs < writableBound

/-- How many of `count` consecutive integers can be written before one cannot. -/
def writableRun (first : Int) (count : Nat) : Nat :=
  if isWritable first then min count (writableBound - first).toNat else 0

/-- White space that may surround an integer; the information separators may not. -/
def isPadding (c : Char) : Bool := isBlank c && !(0x1c ≤ c.toNat && c.toNat ≤ 0x1f)

/-- Takes a minus or plus sign off the start; true means negative. -/
def spanSign : Text → Bool × Text
  | '-' :: rest => (true, rest)
  | '+' :: rest => (false, rest)
  | rest => (false, rest)

def groupedDigits : Text → Bool
  | [] => false
  | [c] => c != '_'
  | c :: d :: rest => !(c == '_' && (d == '_')) && groupedDigits (d :: rest)

def toInt (text : Text) : Except IntegerIssue Int :=
  let (negative, body) := spanSign (text.dropWhile isPadding)
  let run := body.takeWhile fun c => isDecimal c || c == '_'
  let rest := body.dropWhile fun c => isDecimal c || c == '_'
  let digits := without '_' run
  if run.head? = some '_' || !groupedDigits run then .error .malformed
  else if maxIntegerDigits < digits.length then .error (.tooLong digits.length)
  else if !rest.all isPadding then .error .malformed
  else
    let value : Int := decimalsValue digits
    .ok (if negative then -value else value)

end ShaderLift.Text
