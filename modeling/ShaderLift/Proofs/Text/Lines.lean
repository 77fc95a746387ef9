import ShaderLift.Text.Basic

namespace ShaderLift.Text

theorem linesFrom_cons_of_unbroken (current rest : Text) {c : Char}
    (unbroken : isLineBreak c = false) :
    linesFrom current (c :: rest) = linesFrom (current ++ [c]) rest := by
  rw [linesFrom, if_neg (Bool.eq_false_iff.mp unbroken)]
  rintro rest' rfl rfl
  cases unbroken

theorem unbroken_of_all {text : Text} (each : text.all (fun c => !isLineBreak c) = true) :
    ∀ c ∈ text, isLineBreak c = false :=
  fun c inside => by simpa using List.all_eq_true.mp each c inside

theorem linesFrom_append_of_unbroken (current front rest : Text)
    (unbroken : ∀ c ∈ front, isLineBreak c = false) :
    linesFrom current (front ++ rest) = linesFrom (current ++ front) rest := by
  induction front generalizing current with
  | nil => rw [List.nil_append, List.append_nil]
  | cons c front ih =>
    obtain ⟨here, later⟩ := List.forall_mem_cons.mp unbroken
    rw [List.cons_append, linesFrom_cons_of_unbroken _ _ here, ih _ later, List.append_assoc,
      List.singleton_append]

theorem lines_append_newline (front rest : Text) (unbroken : ∀ c ∈ front, isLineBreak c = false) :
    lines (front ++ '\n' :: rest) = front :: lines rest := by
  rw [lines, linesFrom_append_of_unbroken _ _ _ unbroken, List.nil_append]
  rfl

theorem lines_of_unbroken {text : Text} (some : text ≠ [])
    (unbroken : ∀ c ∈ text, isLineBreak c = false) : lines text = [text] := by
  have whole := linesFrom_append_of_unbroken [] text [] unbroken
  rw [List.append_nil, List.nil_append] at whole
  rw [lines, whole, linesFrom, if_neg (by simpa using some)]

/-- Lines with newlines between them are read as they are, unless the last one is empty. -/
theorem lines_join_newline {all : List Text}
    (unbroken : ∀ line ∈ all, ∀ c ∈ line, isLineBreak c = false)
    (ended : ∀ line ∈ all.getLast?, line ≠ []) : lines (join "\n" all) = all := by
  induction all with
  | nil => rfl
  | cons line rest ih =>
    obtain ⟨here, later⟩ := List.forall_mem_cons.mp unbroken
    cases rest with
    | nil => exact lines_of_unbroken (ended line rfl) here
    | cons next rest =>
      have whole : join "\n" (line :: next :: rest) = line ++ '\n' :: join "\n" (next :: rest) :=
        List.append_assoc ..
      rw [whole, lines_append_newline _ _ here, ih later (by simpa using ended)]

theorem unbroken_of_mem_linesFrom {current text line : Text}
    (before : ∀ c ∈ current, isLineBreak c = false) (inside : line ∈ linesFrom current text) :
    ∀ c ∈ line, isLineBreak c = false := by
  fun_induction linesFrom current text with
  | case1 current empty => cases inside
  | case2 current filled =>
    rw [List.mem_singleton.mp inside]
    exact before
  | case3 current rest ih =>
    rcases List.mem_cons.mp inside with rfl | later
    · exact before
    · exact ih (by simp) later
  | case4 current c rest _ broken ih =>
    rcases List.mem_cons.mp inside with rfl | later
    · exact before
    · exact ih (by simp) later
  | case5 current c rest _ unbroken ih =>
    refine ih (fun d among => ?_) inside
    rcases List.mem_append.mp among with front | last
    · exact before d front
    · rw [List.mem_singleton.mp last]
      exact Bool.eq_false_iff.mpr unbroken

theorem unbroken_of_mem_lines {text line : Text} (inside : line ∈ lines text) :
    ∀ c ∈ line, isLineBreak c = false :=
  unbroken_of_mem_linesFrom (by simp) inside

end ShaderLift.Text
