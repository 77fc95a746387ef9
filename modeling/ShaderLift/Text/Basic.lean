namespace ShaderLift

abbrev Text := List Char

instance : Coe String Text := ⟨String.toList⟩

namespace Text

def ofNat (n : Nat) : Text := Nat.toDigits 10 n

def ofInt : Int → Text
  | .ofNat n => ofNat n
  | .negSucc n => '-' :: ofNat (n + 1)

def join (separator : Text) : List Text → Text
  | [] => []
  | [text] => text
  | text :: next :: rest => text ++ separator ++ join separator (next :: rest)

def commaList (values : List Text) : Text := join ", " values

def times (count : Nat) (text : Text) : Text := (List.replicate count text).flatten

def after? : Text → Text → Option Text
  | [], text => some text
  | _ :: _, [] => none
  | a :: start, c :: text => if a = c then after? start text else none

def before? (ending text : Text) : Option Text :=
  (after? ending.reverse text.reverse).map List.reverse

def startsWith (start text : Text) : Bool := (after? start text).isSome

def endsWith (ending text : Text) : Bool := (before? ending text).isSome

def breakAt? (pattern : Text) : Text → Option (Text × Text)
  | [] => if pattern.isEmpty then some ([], []) else none
  | c :: rest =>
    match after? pattern (c :: rest) with
    | some tail => some ([], tail)
    | none => (breakAt? pattern rest).map fun (front, tail) => (c :: front, tail)

def holds (pattern text : Text) : Bool := (breakAt? pattern text).isSome

def splitLast? (mark : Char) : Text → Option (Text × Text)
  | [] => none
  | c :: rest =>
    match splitLast? mark rest with
    | some (front, tail) => some (c :: front, tail)
    | none => if c = mark then some ([], rest) else none

/-- The pieces between the occurrences of a separating character; always at least one. -/
def pieces (separator : Char) : Text → List Text
  | [] => [[]]
  | c :: rest =>
    if c = separator then [] :: pieces separator rest
    else
      match pieces separator rest with
      | [] => [[c]]
      | piece :: others => (c :: piece) :: others

def without (c : Char) (text : Text) : Text := text.filter (· != c)

def trimEndOf (c : Char) (text : Text) : Text := (text.reverse.dropWhile (· == c)).reverse

def dropFinalNewline (text : Text) : Text := (before? ['\n'] text).getD text

def isLineBreak (c : Char) : Bool :=
  let n := c.toNat
  (0x0a ≤ n && n ≤ 0x0d) || (0x1c ≤ n && n ≤ 0x1e) || n == 0x85 || n == 0x2028 || n == 0x2029

/-- The lines of a text when `current` is the part of a line already read. -/
def linesFrom (current : Text) : Text → List Text
  | [] => if current.isEmpty then [] else [current]
  | '\r' :: '\n' :: rest => current :: linesFrom [] rest
  | c :: rest =>
    if isLineBreak c then current :: linesFrom [] rest else linesFrom (current ++ [c]) rest

/-- The lines without their breaks; a break at the very end starts no further line. -/
def lines (text : Text) : List Text := linesFrom [] text

/-- Replaces carriage returns, alone or before a line feed, by line feeds. -/
def unifyNewlines : Text → Text
  | [] => []
  | '\r' :: '\n' :: rest => '\n' :: unifyNewlines rest
  | c :: rest => (if c = '\r' then '\n' else c) :: unifyNewlines rest

def blankRanges : List (Nat × Nat) :=
  [(0x09, 0x0d), (0x1c, 0x20), (0x85, 0x85), (0xa0, 0xa0), (0x1680, 0x1680), (0x2000, 0x200a),
    (0x2028, 0x2029), (0x202f, 0x202f), (0x205f, 0x205f), (0x3000, 0x3000)]

def inRanges (ranges : List (Nat × Nat)) (c : Char) : Bool :=
  ranges.any fun (first, last) => first ≤ c.toNat && c.toNat ≤ last

def isBlank (c : Char) : Bool := inRanges blankRanges c

def trimStart (text : Text) : Text := text.dropWhile isBlank

def trimEnd (text : Text) : Text := (text.reverse.dropWhile isBlank).reverse

def trim (text : Text) : Text := trimEnd (trimStart text)

/-- The words of a text when `current` is the part of a word already read. -/
def wordsFrom (current : Text) : Text → List Text
  | [] => if current.isEmpty then [] else [current]
  | c :: rest =>
    if isBlank c then
      if current.isEmpty then wordsFrom [] rest else current :: wordsFrom [] rest
    else wordsFrom (current ++ [c]) rest

/-- The maximal runs of characters that are not blank. -/
def words (text : Text) : List Text := wordsFrom [] text

end Text
end ShaderLift
