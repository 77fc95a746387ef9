import ShaderLift.Body.Context
import ShaderLift.Proofs.Text.Ends

namespace ShaderLift

/-- What a line means for the nesting of the lines behind it. -/
inductive LineKind where
  | opening | closing | label | exit | plain
  deriving DecidableEq

namespace LineKind

/-- The kind of a line that starts without blanks. -/
def ofText (text : Text) : LineKind :=
  if text = "\x7b" then opening
  else if text = "\x7d" then closing
  else if text = "default:" ∨ Text.startsWith "case " text ∧ Text.endsWith ":" text then label
  else if text = "break;" ∨ text = "return;" ∨ text = "return output;" then exit
  else plain

/-- The kind of a line, whatever blanks it starts with. -/
def ofLine (line : Text) : LineKind := ofText (Text.trimStart line)

theorem ofLine_append (blanks line : Text) (blank : ∀ c ∈ blanks, Text.isBlank c = true) :
    ofLine (blanks ++ line) = ofLine line := by
  rw [ofLine, Text.trimStart_append _ _ blank, ofLine]

theorem ofText_plain_of_last (text : Text) (c : Char) (last : text.getLast? = some c)
    (other : c ≠ '\x7b' ∧ c ≠ '\x7d' ∧ c ≠ ':')
    (inside : c = ';' → '=' ∈ text ∨ '(' ∈ text) : ofText text = plain := by
  have apart (known : Text) (final : Char) (ends : known.getLast? = some final)
      (differs : c ≠ final) : text ≠ known := by
    rintro rfl
    exact differs (Option.some.inj (last.symm.trans ends))
  have noLabel : ¬ Text.endsWith ":" text = true := by
    intro ends
    obtain ⟨front, found⟩ := Option.isSome_iff_exists.mp ends
    have final : text.getLast? = some ':' := by
      rw [Text.eq_of_before? _ _ _ found, List.getLast?_append]
      rfl
    exact other.2.2 (Option.some.inj (last.symm.trans final))
  have noExit (known : Text) (ends : known.getLast? = some ';')
      (lacks : '=' ∉ known ∧ '(' ∉ known) : text ≠ known := by
    rintro rfl
    rcases inside (Option.some.inj (last.symm.trans ends)) with member | member
    · exact lacks.1 member
    · exact lacks.2 member
  rw [ofText, if_neg (apart _ _ rfl other.1), if_neg (apart _ _ rfl other.2.1), if_neg, if_neg]
  · rintro (leaves | leaves | leaves)
    · exact noExit _ rfl (by decide) leaves
    · exact noExit _ rfl (by decide) leaves
    · exact noExit _ rfl (by decide) leaves
  · rintro (labels | ⟨_, labels⟩)
    · exact apart _ _ rfl other.2.2 labels
    · exact noLabel labels

theorem ofText_plain_of_head (text : Text) (c : Char) (start : text.head? = some c)
    (other : c ∉ ['\x7b', '\x7d', 'd', 'c', 'b', 'r']) : ofText text = plain := by
  have apart (known : Text) (initial : Char) (starts : known.head? = some initial)
      (member : initial ∈ ['\x7b', '\x7d', 'd', 'c', 'b', 'r']) : text ≠ known := by
    rintro rfl
    rw [Option.some.inj (start.symm.trans starts)] at other
    exact other member
  have noCase : ¬ Text.startsWith "case " text = true := by
    intro starts
    obtain ⟨tail, found⟩ := Option.isSome_iff_exists.mp starts
    exact apart _ 'c' rfl (by decide) (Text.eq_of_after? _ _ _ found)
  rw [ofText, if_neg (apart _ _ rfl (by decide)), if_neg (apart _ _ rfl (by decide)), if_neg,
    if_neg]
  · rintro (leaves | leaves | leaves)
    · exact apart _ _ rfl (by decide) leaves
    · exact apart _ _ rfl (by decide) leaves
    · exact apart _ _ rfl (by decide) leaves
  · rintro (labels | ⟨labels, _⟩)
    · exact apart _ _ rfl (by decide) labels
    · exact noCase labels

theorem ofLine_case (value : Text) : ofLine ("case " ++ value ++ ":") = label := by
  have starts : Text.startsWith "case " ("case " ++ value ++ ":") = true := by
    rw [Text.startsWith, List.append_assoc, Text.after?_append]
    rfl
  have ends : Text.endsWith ":" ("case " ++ value ++ ":") = true := by
    rw [Text.endsWith, Text.before?_append]
    rfl
  have visible : Text.trimStart ("case " ++ value ++ ":") = "case " ++ value ++ ":" := rfl
  have other (known : Text) (apart : known.head? ≠ some 'c') :
      "case " ++ value ++ ":" ≠ known := by
    rintro rfl
    exact apart rfl
  rw [ofLine, visible, ofText, if_neg (other _ (by decide)), if_neg (other _ (by decide)),
    if_pos (.inr ⟨starts, ends⟩)]

end LineKind

/-- A line that neither opens nor closes nor leaves anything. -/
def PlainText (text : Text) : Prop := LineKind.ofLine text = .plain

instance (text : Text) : Decidable (PlainText text) := inferInstanceAs (Decidable (_ = _))

theorem plainText_of_semicolon (text : Text) (last : text.getLast? = some ';')
    (inside : '=' ∈ text ∨ '(' ∈ text) : PlainText text := by
  refine LineKind.ofText_plain_of_last _ ';' (Text.getLast?_trimStart _ _ (by decide) last)
    (by decide) fun _ => ?_
  rcases inside with member | member
  · exact .inl (Text.mem_trimStart _ _ (by decide) member)
  · exact .inr (Text.mem_trimStart _ _ (by decide) member)

theorem plainText_of_parenthesis (text : Text) (last : text.getLast? = some ')') :
    PlainText text :=
  LineKind.ofText_plain_of_last _ ')' (Text.getLast?_trimStart _ _ (by decide) last) (by decide)
    nofun

/-- What surrounds a line and moves it in by one unit: a brace, or a label still open. -/
inductive Mark where
  | brace | label
  deriving DecidableEq

namespace Mark

/-- The marks behind a label that is innermost, if one is. -/
def leaveLabel : List Mark → List Mark
  | label :: rest => rest
  | marks => marks

/-- The marks around a line of some kind, innermost first, when those in front of it are given. A
label ends the one before it; a closing brace ends the label under which it stands and then the
brace that it closes, and there has to be one. -/
def around? : LineKind → List Mark → Option (List Mark)
  | .closing, marks =>
    match leaveLabel marks with
    | brace :: rest => some rest
    | _ => none
  | .label, marks => some (leaveLabel marks)
  | _, marks => some marks

/-- The marks behind a line of some kind, when those around it are given. -/
def behind : LineKind → List Mark → List Mark
  | .opening, marks => brace :: marks
  | .label, marks => label :: marks
  | .exit, marks => leaveLabel marks
  | _, marks => marks

/-- The marks behind some lines, none if a line closes a brace that is not open. -/
def behindAll? : List Text → List Mark → Option (List Mark)
  | [], marks => some marks
  | line :: rest, marks =>
    (around? (.ofLine line) marks).bind fun outer => behindAll? rest (behind (.ofLine line) outer)

theorem behindAll?_append (first second : List Text) (marks : List Mark) :
    behindAll? (first ++ second) marks = (behindAll? first marks).bind (behindAll? second) := by
  induction first generalizing marks with
  | nil => rfl
  | cons line rest ih =>
    simp only [List.cons_append, behindAll?, ih, Option.bind_assoc]

end Mark

/-- The lines of one kind. -/
def countLines (kind : LineKind) (lines : List Text) : Nat :=
  lines.countP fun line => LineKind.ofLine line = kind

/-- The lines of a body are well bracketed: no beginning of it closes more braces than it opens, in
the end all braces and labels are closed, and each line that is not empty is its text behind one
indent unit for every brace and every label open around it. -/
structure WellBracketed (unit : Text) (lines texts : List Text) : Prop where
  sane : ∀ n, countLines .closing (lines.take n) ≤ countLines .opening (lines.take n)
  settled : countLines .closing lines = countLines .opening lines
  closed : Mark.behindAll? lines [] = some []
  indented : ∀ front line rest, lines = front ++ line :: rest → line ≠ [] →
    ∃ marks outer text, Mark.behindAll? front [] = some marks ∧
      Mark.around? (.ofLine line) marks = some outer ∧ texts[front.length]? = some text ∧
      line = Text.times (outer.count .brace + outer.count .label) unit ++ text

namespace Mark

theorem count_leaveLabel (marks : List Mark) :
    (leaveLabel marks).count brace = marks.count brace := by
  unfold leaveLabel
  split <;> simp

/-- Along the lines, the braces opened are those closed and those that stay open. -/
theorem count_behindAll? (lines : List Text) (marks reached : List Mark)
    (run : behindAll? lines marks = some reached) :
    marks.count brace + countLines .opening lines =
      reached.count brace + countLines .closing lines := by
  induction lines generalizing marks with
  | nil =>
    cases run
    rfl
  | cons line rest ih =>
    obtain ⟨outer, around, later⟩ := Option.bind_eq_some_iff.mp run
    have onward := ih _ later
    simp only [countLines, List.countP_cons, decide_eq_true_eq] at onward ⊢
    cases kind : LineKind.ofLine line with
    | opening =>
      rw [kind] at around onward
      cases around
      simp only [behind, List.count_cons_self] at onward
      simp
      omega
    | closing =>
      rw [kind] at around onward
      simp only [around?] at around
      split at around
      · rename_i inner left
        cases around
        have kept := count_leaveLabel marks
        rw [left, List.count_cons_self] at kept
        simp only [behind] at onward
        simp
        omega
      · cases around
    | label =>
      rw [kind] at around onward
      cases around
      have kept := count_leaveLabel marks
      simp only [behind, List.count_cons_of_ne (show label ≠ brace by decide)] at onward
      simp
      omega
    | exit =>
      rw [kind] at around onward
      cases around
      have kept := count_leaveLabel marks
      simp only [behind] at onward
      simp
      omega
    | plain =>
      rw [kind] at around onward
      cases around
      simpa [behind] using onward

theorem length_eq_count (marks : List Mark) :
    marks.length = marks.count brace + marks.count label := by
  induction marks with
  | nil => rfl
  | cons mark rest ih => cases mark <;> simp [ih] <;> omega

end Mark

/-- Statements that follow one another: each of them stands at the depth of the marks around it. -/
inductive Nested : List Mark → List Statement → List Mark → Prop
  | nil (marks : List Mark) : Nested marks [] marks
  | cons {marks outer reached : List Mark} {s : Statement} {rest : List Statement}
      (around : Mark.around? (.ofLine s.body) marks = some outer)
      (level : s = .blank ∨ s.depth = outer.length)
      (later : Nested (Mark.behind (.ofLine s.body) outer) rest reached) :
      Nested marks (s :: rest) reached

namespace Nested

variable {marks middle reached : List Mark} {first second : List Statement}

theorem append (front : Nested marks first middle) (back : Nested middle second reached) :
    Nested marks (first ++ second) reached := by
  induction front with
  | nil => exact back
  | cons around level later ih => exact .cons around level (ih back)

theorem single {outer : List Mark} {s : Statement}
    (around : Mark.around? (.ofLine s.body) marks = some outer)
    (level : s = .blank ∨ s.depth = outer.length) :
    Nested marks [s] (Mark.behind (.ofLine s.body) outer) :=
  .cons around level (.nil _)

theorem plain {statements : List Statement}
    (each : ∀ s ∈ statements, PlainText s.body ∧ (s = .blank ∨ s.depth = marks.length)) :
    Nested marks statements marks := by
  induction statements with
  | nil => exact .nil marks
  | cons s rest ih =>
    obtain ⟨kind, level⟩ := each s (List.mem_cons_self ..)
    have later := ih fun t inside => each t (List.mem_cons_of_mem s inside)
    have around : Mark.around? (.ofLine s.body) marks = some marks := by
      rw [kind]
      rfl
    refine .cons around level ?_
    rw [kind]
    exact later

theorem cut {s : Statement} {statements : List Statement} (nested : Nested marks statements reached)
    (whole : statements = first ++ s :: second) :
    ∃ middle outer, Nested marks first middle ∧ Mark.around? (.ofLine s.body) middle = some outer ∧
      (s = .blank ∨ s.depth = outer.length) := by
  induction first generalizing marks statements with
  | nil =>
    subst whole
    cases nested with
    | cons around level later => exact ⟨marks, _, .nil marks, around, level⟩
  | cons t first ih =>
    subst whole
    cases nested with
    | cons around level later =>
      obtain ⟨middle, outer, front, here, stands⟩ := ih later rfl
      exact ⟨middle, outer, .cons around level front, here, stands⟩

variable {unit : Text} (blank : ∀ c ∈ unit, Text.isBlank c = true)
include blank

theorem kind_render (s : Statement) : LineKind.ofLine (s.render unit) = LineKind.ofLine s.body :=
  LineKind.ofLine_append _ _ fun c inside => blank c (Text.mem_times c s.depth unit inside)

theorem behindAll? (nested : Nested marks first reached) :
    Mark.behindAll? (first.map (Statement.render unit)) marks = some reached := by
  induction nested with
  | nil => rfl
  | cons around level later ih =>
    rw [List.map_cons, Mark.behindAll?, kind_render blank, around]
    exact ih

/-- Statements that follow one another from the outermost level and end there are well bracketed as
lines. -/
theorem wellBracketed (nested : Nested [] first []) :
    WellBracketed unit (first.map (Statement.render unit)) (first.map Statement.body) where
  sane n := by
    obtain ⟨middle, front⟩ : ∃ middle, Mark.behindAll?
        ((first.map (Statement.render unit)).take n) [] = some middle := by
      have whole := nested.behindAll? blank
      rw [← List.take_append_drop n (first.map (Statement.render unit)), Mark.behindAll?_append]
        at whole
      obtain ⟨middle, front, _⟩ := Option.bind_eq_some_iff.mp whole
      exact ⟨middle, front⟩
    have counted := Mark.count_behindAll? _ _ _ front
    rw [List.count_nil] at counted
    omega
  settled := by
    have counted := Mark.count_behindAll? _ _ _ (nested.behindAll? blank)
    simpa using counted.symm
  closed := nested.behindAll? blank
  indented front line rest whole filled := by
    obtain ⟨before, others, split, rfl, tail⟩ := List.map_eq_append_iff.mp whole
    obtain ⟨s, later, rfl, rfl, _⟩ := List.map_eq_cons_iff.mp tail
    obtain ⟨middle, outer, earlier, around, level⟩ := nested.cut split
    refine ⟨middle, outer, s.body, earlier.behindAll? blank, ?_, ?_, ?_⟩
    · rw [kind_render blank]
      exact around
    · simp [split]
    · rw [← Mark.length_eq_count]
      rcases level with rfl | level
      · exact absurd rfl filled
      · rw [← level]
        rfl

end Nested
end ShaderLift
