import ShaderLift.Proofs.Nesting.Line
import ShaderLift.Shader.Source

namespace ShaderLift

namespace Text

theorem join_append (separator : Text) (first second : List Text) (some : first ≠ [])
    (more : second ≠ []) :
    join separator (first ++ second) = join separator first ++ separator ++ join separator second := by
  induction first with
  | nil => exact absurd rfl some
  | cons line rest ih =>
    cases rest with
    | nil =>
      obtain ⟨next, others, rfl⟩ := List.exists_cons_of_ne_nil more
      rfl
    | cons next others =>
      have later := ih (List.cons_ne_nil next others)
      simp only [List.cons_append] at later ⊢
      simp only [join, later, List.append_assoc]

/-- Only what lies behind the last visible character is taken off the end. -/
theorem trimEnd_append (front back : Text) (visible : ∃ c ∈ back, isBlank c = false) :
    trimEnd (front ++ back) = front ++ trimEnd back := by
  obtain ⟨c, inside, shown⟩ := visible
  have stops : back.reverse.dropWhile isBlank ≠ [] :=
    List.ne_nil_of_mem (mem_trimStart c back.reverse shown (List.mem_reverse.mpr inside))
  have kept : (back.reverse ++ front.reverse).dropWhile isBlank =
      back.reverse.dropWhile isBlank ++ front.reverse := by
    rw [List.dropWhile_append, if_neg]
    simpa using stops
  rw [trimEnd, List.reverse_append, kept, List.reverse_append, List.reverse_reverse, trimEnd]

theorem mem_join {separator : Text} {lines : List Text} {line : Text} {c : Char}
    (among : line ∈ lines) (inside : c ∈ line) : c ∈ join separator lines := by
  induction lines with
  | nil => cases among
  | cons first rest ih =>
    cases rest with
    | nil =>
      rw [List.mem_singleton] at among
      rw [← among]
      exact inside
    | cons next others =>
      rw [join]
      rcases List.mem_cons.mp among with rfl | later
      · exact List.mem_append_left _ (List.mem_append_left _ inside)
      · exact List.mem_append_right _ (ih later)

end Text

namespace ShaderSource

/-- A text has a block on lines of its own: an opening line and a body in braces. -/
def HasBlock (code opening : Text) (body : List Text) : Prop :=
  ∃ front back, code =
    front ++ '\n' :: Text.join ['\n'] (opening :: ['\x7b'] :: body ++ [['\x7d', ';']]) ++
      '\n' :: back

theorem mem_spaced {groups : List (List Text)} {group : List Text} (inside : group ∈ groups) :
    group <:+: spaced groups := by
  induction groups with
  | nil => cases inside
  | cons first rest ih =>
    cases rest with
    | nil =>
      rw [List.mem_singleton.mp inside]
      exact List.infix_refl first
    | cons next others =>
      rw [spaced]
      rcases List.mem_cons.mp inside with rfl | later
      · rw [List.append_assoc]
        exact (List.prefix_append ..).isInfix
      · exact (ih later).trans (List.suffix_append ..).isInfix

/-- The sections between the banner and the entry point. -/
def middle (u : ShaderSource) : List (List Text) :=
  [u.signatureStructs, u.structures, u.constantBuffers, u.resources,
    u.context.globalDeclarations, u.infoHelpers]

/-- Sections that are not empty, each with an empty line behind it. -/
def paragraphs (sections : List (List Text)) : List Text :=
  (sections.filter (!·.isEmpty)).flatMap fun lines => lines ++ [[]]

theorem mem_paragraphs {sections : List (List Text)} {lines : List Text}
    (inside : lines ∈ sections) (some : lines ≠ []) : lines <:+: paragraphs sections := by
  have kept : lines ∈ sections.filter (!·.isEmpty) :=
    List.mem_filter.mpr ⟨inside, by simpa using some⟩
  obtain ⟨front, back, split⟩ := List.append_of_mem kept
  refine ⟨front.flatMap (· ++ [[]]), [[]] ++ back.flatMap (· ++ [[]]), ?_⟩
  rw [paragraphs, split]
  simp only [List.flatMap_append, List.flatMap_cons, List.append_assoc]

theorem entryPoint_closes (u : ShaderSource) : ['\x7d'] ∈ u.entryPoint := by
  rw [entryPoint]
  exact List.mem_append_right _ (List.mem_singleton.mpr rfl)

/-- The lines of a source. -/
theorem render_eq (u : ShaderSource) :
    u.render = Text.trimEnd (Text.join ['\n']
      (banner ++ [[]] ++ paragraphs u.middle ++ (u.entryPoint ++ [[]]))) ++ ['\n'] := by
  have last : (!u.entryPoint.isEmpty) = true := by
    simpa using List.ne_nil_of_mem u.entryPoint_closes
  have whole : paragraphs u.sections =
      banner ++ [[]] ++ paragraphs u.middle ++ (u.entryPoint ++ [[]]) := by
    have parts : u.sections = [banner] ++ u.middle ++ [u.entryPoint] := rfl
    rw [parts]
    have final : [u.entryPoint].filter (!·.isEmpty) = [u.entryPoint] :=
      List.filter_cons_of_pos last
    have start : [banner].filter (!·.isEmpty) = [banner] := rfl
    simp only [paragraphs, List.filter_append, List.flatMap_append, List.flatMap_singleton, start,
      final]
  rw [← whole]
  rfl

/-- Neighbouring lines of a section stand in the source as they are. -/
theorem isInfix_render (u : ShaderSource) {lines group : List Text} (inside : lines ∈ u.middle)
    (within : group <:+: lines) (some : group ≠ []) :
    ∃ front back, u.render =
      front ++ '\n' :: Text.join ['\n'] group ++ '\n' :: back := by
  have nonempty : lines ≠ [] := by
    rintro rfl
    exact some (List.infix_nil.mp within)
  obtain ⟨above, below, split⟩ := within.trans (mem_paragraphs inside nonempty)
  have closes : ['\x7d'] ∈ below ++ (u.entryPoint ++ [[]]) :=
    List.mem_append_right _ (List.mem_append_left _ u.entryPoint_closes)
  have visible : ∃ c ∈ Text.join ['\n'] (below ++ (u.entryPoint ++ [[]])), Text.isBlank c = false :=
    ⟨'\x7d', Text.mem_join closes (List.mem_singleton.mpr rfl), by decide⟩
  have rows : banner ++ [[]] ++ paragraphs u.middle ++ (u.entryPoint ++ [[]]) =
      (banner ++ [[]] ++ above) ++ (group ++ (below ++ (u.entryPoint ++ [[]]))) := by
    rw [← split]
    simp only [List.append_assoc]
  refine ⟨Text.join ['\n'] (banner ++ [[]] ++ above),
    Text.trimEnd (Text.join ['\n'] (below ++ (u.entryPoint ++ [[]]))) ++ ['\n'], ?_⟩
  rw [render_eq, rows, Text.join_append _ _ _ (by simp [banner]) (by simp [some]),
    Text.join_append _ group _ some (List.ne_nil_of_mem closes), ← List.append_assoc,
    Text.trimEnd_append _ _ visible]
  simp only [List.append_assoc, List.cons_append, List.nil_append]

/-- Every structure is defined in the source. -/
theorem hasBlock_structure (u : ShaderSource) {s : Structure}
    (declared : s ∈ u.symbols.declared.structures) :
    HasBlock u.render ("struct " ++ s.name)
      (s.members.map fun v => u.config.indent ++ (v.type ++ " " ++ v.name ++ ";")) := by
  have among : u.structures ∈ u.middle := by simp [middle]
  apply u.isInfix_render among _ (by simp)
  apply mem_spaced
  refine List.mem_map.mpr ⟨s, declared, ?_⟩
  rw [block, List.map_map]
  rfl

/-- Every buffer is declared in the source. -/
theorem hasBlock_buffer (u : ShaderSource) {buffer : ConstantBuffer}
    (declared : buffer ∈ u.symbols.declared.buffers) :
    HasBlock u.render ("cbuffer " ++ buffer.name ++ " : register(b" ++ Text.ofInt buffer.bind ++ ")")
      (buffer.members.map (bufferField u.config.indent)) := by
  have among : u.constantBuffers ∈ u.middle := by simp [middle]
  apply u.isInfix_render among _ (by simp)
  apply mem_spaced
  exact List.mem_map.mpr ⟨buffer, declared, rfl⟩

end ShaderSource
end ShaderLift
