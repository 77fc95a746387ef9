import ShaderLift.Proofs.Decoding.Arity
import ShaderLift.Proofs.Text.Words
import ShaderLift.Proofs.Transparency.Alike

namespace ShaderLift

namespace Token

theorem ofLines_shift (number shift : Int) (lines : List Text) :
    ofLines (number + shift) lines = (ofLines number lines).map (Token.shift shift) := by
  induction lines generalizing number with
  | nil => rfl
  | cons line lines ih =>
    rw [ofLines, ofLines, List.map_append, List.map_map, ← ih]
    congr 2
    omega

theorem length_ofLines (number : Int) (lines : List Text) :
    (ofLines number lines).length = (lines.flatMap ofLine).length := by
  induction lines generalizing number with
  | nil => rfl
  | cons line lines ih =>
    rw [ofLines, List.flatMap_cons, List.length_append, List.length_append, List.length_map, ih]

/-- The first token of some lines is the first one of its own line. -/
theorem head_ofLines {number : Int} {lines : List Text} {token : Token}
    (first : token ∈ (ofLines number lines).head?) :
    ∃ line ∈ lines, (ofLine line).head? = some token.text := by
  induction lines generalizing number with
  | nil => cases first
  | cons line lines ih =>
    cases texts : ofLine line with
    | nil =>
      rw [ofLines, texts] at first
      obtain ⟨other, inside, starts⟩ := ih first
      exact ⟨other, List.mem_cons_of_mem _ inside, starts⟩
    | cons text rest =>
      rw [ofLines, texts] at first
      cases first
      exact ⟨line, List.mem_cons_self .., by rw [texts]; rfl⟩

end Token

namespace Instruction

/-- No known name is blank. -/
theorem all_isBlank_lookup? {name : Text} {opcode : Opcode} (found : lookup? name = some opcode) :
    name.all Text.isBlank = false := by
  have opened : ∀ entry ∈ openOpcodes, entry.1.all Text.isBlank = false := by decide
  refine lookup?_induction (motive := fun name _ => name.all Text.isBlank = false)
    (by decide +kernel) (by decide +kernel) (fun entry inside rest => ?_) found
  rw [List.all_append, opened entry inside, Bool.false_and]

/-- Blanks are no mnemonic. -/
theorem classify?_of_blank {text : Text} (blank : ∀ c ∈ text, Text.isBlank c = true) :
    classify? text = none := by
  have all : text.all Text.isBlank = true := List.all_eq_true.mpr blank
  have plain : '_' ∉ text := fun inside => absurd (blank '_' inside) (by decide)
  have unsaturated : Text.before? "_sat" text = none := by
    rw [Option.eq_none_iff_forall_ne_some]
    intro front found
    apply plain
    rw [Text.eq_of_before? _ _ _ found]
    exact List.mem_append_right front (List.mem_cons_self ..)
  have unannounced : modifierSegments.contains text = false := by
    have announced : ∀ part ∈ modifierSegments, part.all Text.isBlank = false := by decide
    rw [← Bool.not_eq_true, List.contains_iff_mem]
    intro inside
    rw [announced text inside] at all
    cases all
  have same : (normalizeMnemonic text).1 = text := by
    simp only [normalizeMnemonic, unsaturated, Option.getD_none,
      Text.pieces_of_not_mem plain, List.filter_cons, unannounced, Bool.not_false, if_true,
      List.filter_nil]
    rfl
  rw [classify?]
  simp only [same, Option.map_eq_none_iff]
  rw [Option.eq_none_iff_forall_ne_some]
  intro opcode found
  rw [all_isBlank_lookup? found] at all
  cases all

end Instruction

/-- A line without an instruction: nothing but blanks in front of its comment, or tokens that are
no mnemonics and do not begin with an opening parenthesis or brace. -/
def IsUnsupported (line : Text) : Prop :=
  (∀ c ∈ Token.stripComment line, Text.isBlank c = true) ∨
  (∀ text ∈ Token.ofLine line, Instruction.classify? text = none) ∧
    (Token.ofLine line).head? ≠ some ("(" : Text) ∧ (Token.ofLine line).head? ≠ some ("\x7b" : Text)

/-- Blank lines and comments too have no tokens but such. -/
theorem IsUnsupported.tokens {line : Text} (unsupported : IsUnsupported line) :
    (∀ text ∈ Token.ofLine line, Instruction.classify? text = none) ∧
      (Token.ofLine line).head? ≠ some ("(" : Text) ∧
      (Token.ofLine line).head? ≠ some ("\x7b" : Text) := by
  rcases unsupported with blank | rejected
  · have blanks (text : Text) (inside : text ∈ Token.ofLine line) :
        ∀ c ∈ text, Text.isBlank c = true :=
      fun c within => blank c (((Token.ofLine_divides line).isInfix text inside).subset within)
    refine ⟨fun text inside => Instruction.classify?_of_blank (blanks text inside), ?_, ?_⟩
    · intro first
      exact absurd (blanks _ (List.mem_of_head? first) '(' (List.mem_cons_self ..)) (by decide)
    · intro first
      exact absurd (blanks _ (List.mem_of_head? first) '\x7b' (List.mem_cons_self ..)) (by decide)
  · exact rejected

end ShaderLift
