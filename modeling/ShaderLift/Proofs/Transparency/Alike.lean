import ShaderLift.Proofs.Decoding.Lockstep

namespace ShaderLift

/-- The fault without the line at which decoding met it. -/
def Fault.unlocated : Fault → Fault
  | decode cause _ => .decode cause none
  | imbalance cause _ => .imbalance cause none
  | fault => fault

/-- The token some lines further down. -/
def Token.shift (lines : Int) (token : Token) : Token := { token with line := token.line + lines }

@[simp]
theorem Token.text_shift (lines : Int) (token : Token) : (token.shift lines).text = token.text :=
  rfl

@[simp]
theorem Token.shift_zero (token : Token) : token.shift 0 = token := by
  rw [shift, Int.add_zero]

@[simp]
theorem Token.line_shift (lines : Int) (token : Token) :
    (token.shift lines).line = token.line + lines :=
  rfl

namespace Decoding

/-- Two runs fail with the same fault, the line aside, and in the same context. -/
def Comparison.unlocated : Comparison := ⟨Fault.unlocated, fun d d' => d'.context = d.context⟩

/-- A place between two lines of a listing and its counterpart in a second one: the number of the
last line in front, how much further down that line is in the second listing, and what follows. That
begins on a later line, not with a parenthesis, and with a brace in the second listing only if it
does so in the first one. -/
structure Seam where
  last : Int
  shift : Int
  far : List Token
  far' : List Token
  apart : ∀ token ∈ far.head?, last < token.line ∧ token.text ≠ "("
  apart' : ∀ token ∈ far'.head?, last + shift < token.line ∧ token.text ≠ "("
  brace : ∀ token ∈ far'.head?, token.text = "\x7b" → ∃ token ∈ far.head?, token.text = "\x7b"

variable {env : Environment} {seam : Seam} {line : Int}

/-- The tokens still to come are the same up to a seam. -/
inductive Facing (seam : Seam) : List Token → List Token → Prop
  | behind : Facing seam seam.far seam.far'
  | cons {token : Token} {rest rest' : List Token} (inFront : token.line ≤ seam.last)
      (later : Facing seam rest rest') :
      Facing seam (token :: rest) (token.shift seam.shift :: rest')

/-- Two decoders that differ in their places in front of a seam, in notices, and in line numbers. -/
structure Level (seam : Seam) (d d' : Decoder) : Prop where
  context : d'.context = d.context
  instruction : d'.instruction = d.instruction
  rest : Facing seam d.cursor.rest d'.cursor.rest

/-- Two decoders at the same instruction in front of a seam. -/
structure Alike (seam : Seam) (line : Int) (d d' : Decoder) : Prop extends Level seam d d' where
  inFront : line ≤ seam.last
  onLine : d.line = some line
  onLine' : d'.line = some (line + seam.shift)

theorem isOnLine_shift (line shift : Int) (token : Token) :
    isOnLine (some (line + shift)) (token.shift shift) = isOnLine (some line) token := by
  rw [Bool.eq_iff_iff, isOnLine_iff, isOnLine_iff, Option.some.injEq, Option.some.injEq]
  show line + shift = token.line + shift ↔ line = token.line
  omega

theorem isOnLine_of_lt {token : Token} (later : line < token.line) :
    isOnLine (some line) token = false := by
  rw [← Bool.not_eq_true, isOnLine_iff, Option.some.injEq]
  omega

namespace Seam

/-- What follows is on no line in front of the seam. -/
theorem elsewhere (seam : Seam) (inFront : line ≤ seam.last) :
    ∀ token ∈ seam.far.head?, isOnLine (some line) token = false := by
  intro token inside
  have later := (seam.apart token inside).1
  exact isOnLine_of_lt (by omega)

theorem elsewhere' (seam : Seam) (inFront : line ≤ seam.last) :
    ∀ token ∈ seam.far'.head?, isOnLine (some (line + seam.shift)) token = false := by
  intro token inside
  have later := (seam.apart' token inside).1
  exact isOnLine_of_lt (by omega)

end Seam

namespace Alike

variable {d d' : Decoder}

/-- Both decoders at other places in front of the seam. -/
theorem move (alike : Alike seam line d d') {cursor cursor' : Cursor}
    (rest : Facing seam cursor.rest cursor'.rest) :
    Alike seam line { d with cursor } { d' with cursor := cursor' } :=
  ⟨⟨alike.context, alike.instruction, rest⟩, alike.inFront, alike.onLine, alike.onLine'⟩

theorem note (alike : Alike seam line d d') (log log' : Log) :
    Alike seam line { d with log } { d' with log := log' } :=
  ⟨⟨alike.context, alike.instruction, alike.rest⟩, alike.inFront, alike.onLine, alike.onLine'⟩

/-- Both decoders with the same change to their contexts. -/
theorem change (alike : Alike seam line d d') {context context' : Context}
    (same : context' = context) :
    Alike seam line { d with context } { d' with context := context' } :=
  ⟨⟨same, alike.instruction, alike.rest⟩, alike.inFront, alike.onLine, alike.onLine'⟩

theorem ahead (alike : Alike seam line d d') : Ahead (Alike seam line) d d' := by
  have facing := alike.rest
  generalize ahead : d.cursor.rest = rest at facing
  generalize ahead' : d'.cursor.rest = rest' at facing
  cases facing with
  | behind =>
    refine .nothing ?_ ?_ (isAt_false ?_) (isAt_false ?_)
    · rw [ahead, alike.onLine]
      exact seam.elsewhere alike.inFront
    · rw [ahead', alike.onLine']
      exact seam.elsewhere' alike.inFront
    · rw [ahead]
      exact fun token inside => (seam.apart token inside).2
    · rw [ahead']
      exact fun token inside => (seam.apart' token inside).2
  | cons inFront later =>
    refine .token ahead ahead' rfl ?_ (alike.move later)
    rw [alike.onLine, alike.onLine', isOnLine_shift]

theorem inStep : InStep .unlocated (Alike seam line) where
  ahead := ahead
  failed alike := alike.context
  decode _ _ := rfl
  missing alike := by
    rw [alike.instruction]
    rfl

theorem unbalanced (cause : Imbalance) :
    Comparison.unlocated.Runs env (Alike seam line) (Decoding.unbalanced cause) := by
  intro d d' alike
  rw [runOn_unbalanced, runOn_unbalanced]
  split
  · exact .error rfl alike.context
  · exact .ok rfl (alike.note _ _)

theorem lockstep : Lockstep .unlocated env (Alike seam line) where
  toInStep := inStep
  resembling alike := Decoder.resembling_of_context alike.context
  note _ alike := alike.note _ _
  unbalanced := unbalanced
  closeBlock expected d d' alike := by
    rw [Decoding.closeBlock, runOn_bind, runOn_bind, runOn_get, runOn_get]
    dsimp only
    rw [alike.context, alike.instruction]
    split
    · exact (unbalanced _ d d' alike).bind fun _ _ _ _ alike =>
        .ok rfl (alike.change (by rw [alike.context]))
    · exact .ok rfl (alike.change (by rw [alike.context]))
  modifyContext _ _ _ alike := .ok rfl (alike.change (by rw [alike.context]))
  emitAssignment _ _ _ _ alike :=
    .ok rfl (alike.change (by dsimp only; rw [alike.context, alike.instruction]))

end Alike

end Decoding
end ShaderLift
