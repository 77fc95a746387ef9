import ShaderLift.Proofs.Register.Plain

namespace ShaderLift

/-- The text of a register of a buffer. -/
def constantText (bind slot : Int) : Text :=
  "cb" ++ Text.ofInt bind ++ "[" ++ Text.ofInt slot ++ "]"

theorem constantText_append (bind slot : Int) (tail : Text) :
    constantText bind slot ++ tail =
      ("cb" ++ Text.ofInt bind) ++ '[' :: (Text.ofInt slot ++ ']' :: tail) := by
  simp [constantText]

theorem constantText_ofNat (bind slot : Nat) :
    constantText bind slot = ("cb" ++ Text.ofNat bind) ++ '[' :: (Text.ofNat slot ++ [']']) := by
  have parts : constantText bind slot =
      ("cb" ++ Text.ofNat bind) ++ ['['] ++ Text.ofNat slot ++ [']'] := rfl
  rw [parts]
  simp

theorem constantText_ne_nil (bind slot : Nat) : constantText bind slot ≠ [] := by
  rw [constantText_ofNat]
  exact List.append_ne_nil_of_right_ne_nil _ (List.cons_ne_nil _ _)

theorem notMem_ofNat (mark : Char) (other : mark.isDigit = false) (n : Nat) :
    mark ∉ Text.ofNat n := by
  intro inside
  rw [Text.isDigit_ofNat n mark inside] at other
  cases other

theorem mem_constantText {bind slot : Nat} {c : Char} (inside : c ∈ constantText bind slot) :
    c ∈ ['c', 'b', '[', ']'] ∨ c.isDigit = true := by
  rw [constantText_ofNat] at inside
  simp only [List.mem_append, List.mem_cons, List.not_mem_nil, or_false] at inside
  rcases inside with (early | digit) | rfl | digit | rfl
  · exact .inl (List.mem_append_left ['[', ']'] early)
  · exact .inr (Text.isDigit_ofNat bind c digit)
  · left
    decide
  · exact .inr (Text.isDigit_ofNat slot c digit)
  · left
    decide

theorem Text.mem_ofInt {n : Int} {c : Char} (inside : c ∈ ofInt n) : c = '-' ∨ c.isDigit = true := by
  cases n with
  | ofNat n => exact .inr (isDigit_ofNat n c inside)
  | negSucc n =>
    rcases List.mem_cons.mp inside with same | late
    · exact .inl same
    · exact .inr (isDigit_ofNat (n + 1) c late)

theorem Text.ofInt_inj {m n : Int} (same : ofInt m = ofInt n) : m = n := by
  have signed (k l : Nat) : ofNat k ≠ '-' :: ofNat l := by
    intro equal
    apply notMem_ofNat '-' (by decide) k
    rw [equal]
    exact List.mem_cons_self ..
  cases m with
  | ofNat m =>
    cases n with
    | ofNat n => rw [ofNat_inj m n same]
    | negSucc n => exact absurd same (signed m (n + 1))
  | negSucc m =>
    cases n with
    | ofNat n => exact absurd same.symm (signed n (m + 1))
    | negSucc n =>
      have digits := ofNat_inj _ _ (List.cons.inj same).2
      rw [Nat.succ.inj digits]

theorem Text.notMem_ofInt (mark : Char) (other : mark ≠ '-') (worded : mark.isDigit = false)
    (n : Int) : mark ∉ ofInt n := by
  intro inside
  rcases mem_ofInt inside with sign | digit
  · exact other sign
  · rw [worded] at digit
    cases digit

/-- The buffer can be told from what stands in front of the first bracket. -/
theorem buffer_cancel {bind bind' : Int} {tail tail' : Text}
    (same : ("cb" ++ Text.ofInt bind) ++ '[' :: tail = ("cb" ++ Text.ofInt bind') ++ '[' :: tail') :
    bind = bind' ∧ tail = tail' := by
  have unopened (n : Int) : '[' ∉ ("cb" : Text) ++ Text.ofInt n := by
    intro inside
    rcases List.mem_append.mp inside with early | late
    · revert early
      decide
    · exact Text.notMem_ofInt '[' (by decide) (by decide) n late
  obtain ⟨front, behind⟩ := Operand.cut_unique '[' _ _ _ _ (unopened bind) (unopened bind') same
  exact ⟨Text.ofInt_inj (List.append_cancel_left front), behind⟩

/-- The register, and what is written behind it, can be told from the text. -/
theorem constantText_cancel {bind slot bind' slot' : Int} {tail tail' : Text}
    (same : constantText bind slot ++ tail = constantText bind' slot' ++ tail') :
    bind = bind' ∧ slot = slot' ∧ tail = tail' := by
  have unclosed (n : Int) : ']' ∉ Text.ofInt n := Text.notMem_ofInt ']' (by decide) (by decide) n
  rw [constantText_append, constantText_append] at same
  obtain ⟨binds, behind⟩ := buffer_cancel same
  obtain ⟨slots, tails⟩ := Operand.cut_unique ']' _ _ _ _ (unclosed slot) (unclosed slot') behind
  exact ⟨binds, Text.ofInt_inj slots, tails⟩

theorem constantText_inj {bind slot bind' slot' : Nat} {tail tail' : Text}
    (same : constantText bind slot ++ tail = constantText bind' slot' ++ tail') :
    bind = bind' ∧ slot = slot' ∧ tail = tail' := by
  obtain ⟨binds, slots, tails⟩ := constantText_cancel same
  exact ⟨Int.ofNat.inj binds, Int.ofNat.inj slots, tails⟩

theorem span_cons {p : Char → Bool} {run : Text} (each : ∀ c ∈ run, p c = true) (stop : Char)
    (rest : Text) (ends : p stop = false) :
    (run ++ stop :: rest).takeWhile p = run ∧ (run ++ stop :: rest).dropWhile p = stop :: rest := by
  rw [List.takeWhile_append_of_pos each, List.dropWhile_append_of_pos each]
  simp [ends]

namespace Registers

open Operand

/-- A register of a buffer is taken apart at its brackets. -/
theorem constantRegister?_bracketed (bind : Nat) {index : Text} (filled : index ≠ [])
    (unopened : '[' ∉ index) (unclosed : ']' ∉ index) :
    constantRegister? (("cb" ++ Text.ofNat bind) ++ '[' :: (index ++ [']'])) =
      some (Text.ofNat bind, index) := by
  have bindDigits : ∀ c ∈ Text.ofNat bind, Text.isDecimal c = true := fun c inside =>
    Text.isDecimal_digit c (Text.isDigit_ofNat bind c inside)
  have inside : ∀ c ∈ index, (c != '[' && c != ']') = true := by
    intro c among
    rw [Bool.and_eq_true, bne_iff_ne, bne_iff_ne]
    exact ⟨fun same => unopened (same ▸ among), fun same => unclosed (same ▸ among)⟩
  have line : Text.dropFinalNewline (("cb" ++ Text.ofNat bind) ++ '[' :: (index ++ [']'])) =
      ("cb" ++ Text.ofNat bind) ++ '[' :: (index ++ [']']) := by
    have ends : ("cb" ++ Text.ofNat bind) ++ '[' :: (index ++ [']']) =
        (("cb" ++ Text.ofNat bind) ++ '[' :: index) ++ [']'] := by simp
    rw [ends, Text.dropFinalNewline_concat _ (by decide)]
  have start : Text.after? "cb" (("cb" ++ Text.ofNat bind) ++ '[' :: (index ++ [']'])) =
      some (Text.ofNat bind ++ '[' :: (index ++ [']'])) := by
    rw [List.append_assoc]
    exact Text.after?_append _ _
  have opens : Text.after? ['['] ('[' :: (index ++ [']'])) = some (index ++ [']']) := rfl
  obtain ⟨bindRun, bindRest⟩ := span_cons bindDigits '[' (index ++ [']']) (by decide)
  obtain ⟨indexRun, indexRest⟩ := span_cons inside ']' [] (by decide)
  unfold constantRegister? Text.spanDecimals
  rw [line, start]
  simp only [Option.bind_eq_bind, Option.bind_some, bindRun, bindRest, opens, indexRun, indexRest]
  rw [if_neg]
  simp only [Bool.or_eq_true, List.isEmpty_iff, decide_eq_true_eq, not_or, Decidable.not_not]
  exact ⟨⟨Text.ofNat_ne_nil bind, filled⟩, rfl⟩

theorem constantRegister?_constantText (bind slot : Nat) :
    constantRegister? (constantText bind slot) = some (Text.ofNat bind, Text.ofNat slot) := by
  rw [constantText_ofNat]
  exact constantRegister?_bracketed bind (Text.ofNat_ne_nil slot)
    (notMem_ofNat '[' (by decide) slot) (notMem_ofNat ']' (by decide) slot)

/-- A component of a field is not wrapped. -/
theorem place_in_field {place first count : Nat} (low : first ≤ place)
    (high : place < first + count) :
    ((place - first : Int).fmod (max count 1 : Nat)).toNat = place - first := by
  rw [Int.fmod_eq_emod_of_nonneg _ (by omega), Int.emod_eq_of_lt (by omega) (by omega)]
  omega

variable {tables : ConstantTables}

/-- A register that no entry is listed for as written is looked up by its components. -/
theorem findConstant?_constantText (bind slot : Nat) (bindWritable : bind < Text.writableBound)
    (slotWritable : slot < Text.writableBound) (selected : List Component) (filled : selected ≠ [])
    (short : selected.length ≤ 4)
    (unlisted :
      tables.registers.get? (constantText bind slot ++ Component.suffix selected) = none) :
    findConstant? tables (constantText bind slot ++ Component.suffix selected) =
      .ok ((constantOver? (tables.entriesAt bind slot) selected).map fun entry =>
        entry.expression ++ constantSelector entry selected) := by
  unfold findConstant?
  rw [unlisted, splitSelector_suffix _ _ (constantText_ne_nil bind slot) filled short]
  dsimp only
  rw [constantRegister?_constantText]
  dsimp only
  rw [Fault.readInteger_ofNat bind bindWritable, Text.trim_digits _ (Text.isDigit_ofNat slot),
    Text.allDigits_digits _ (Text.ofNat_ne_nil slot) (Text.isDigit_ofNat slot),
    Fault.readInteger_ofNat slot slotWritable]
  rfl

end Registers
end ShaderLift
