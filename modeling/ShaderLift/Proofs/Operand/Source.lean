import ShaderLift.Proofs.Header.Scanned
import ShaderLift.Proofs.Register.Names

namespace ShaderLift

open Operand

namespace Operand

/-- A register as it is listed, without modifiers and selection. -/
structure IsListedRegister (base : Text) : Prop where
  named : base ≠ []
  unsigned : base.head? ≠ some '-'
  unbarred : base.head? ≠ some '|'
  tokens : ∀ c ∈ base, Token.isCutoff c = false ∧ c ≠ '\n'

/-- An operand with modifiers, in the form of the listing. -/
def listedWith (operand : Text) (negate absolute : Bool) : Text :=
  let text := if absolute then '|' :: (operand ++ ['|']) else operand
  if negate then '-' :: text else text

/-- The lanes that a selection gives to the components of a mask. -/
def lanes (selected mask : List Component) : List Component :=
  mask.map fun c => selected.getD (c.index % selected.length) .x

/-- A selection of one or four letters that equals the mask gives each component its own lane. -/
theorem fitted_eq_lanes {selected mask : List Component} (masked : mask.Sublist Component.all)
    (written : mask ≠ []) (sized : selected.length = 1 ∨ selected.length = 4) :
    fitted selected mask = lanes selected mask := by
  unfold fitted
  split
  · rename_i early
    have same : selected = mask := early.resolve_left written
    subst same
    rcases sized with one | four
    · obtain ⟨c, rfl⟩ := List.length_eq_one_iff.mp one
      simp [lanes, Nat.mod_one]
    · rw [masked.eq_of_length four]
      rfl
  · rfl

namespace IsRewritten

variable {base base' : Text}

theorem ne_nil (rewritten : IsRewritten base base') (named : base ≠ []) : base' ≠ [] := by
  cases rewritten with
  | absolute => exact named
  | relative => simp

theorem constructor?_eq_none (rewritten : IsRewritten base base') {tail : Text}
    (uncalled : '(' ∉ base ++ tail) : constructor? (base' ++ tail) = none := by
  cases rewritten with
  | absolute => exact constructor?_uncalled uncalled
  | @relative name index rest register digits start starts letter word =>
    rw [List.append_assoc, List.cons_append]
    apply constructor?_indexed
    intro inside
    exact uncalled (by simp [inside])

end IsRewritten

namespace IsListedRegister

variable {base : Text} {selected : List Component}

theorem of_fixed (named : base ≠ []) (unsigned : base.head? ≠ some '-')
    (unbarred : base.head? ≠ some '|')
    (tokens : base.all (fun c => !Token.isCutoff c && c != '\n') = true) : IsListedRegister base :=
  ⟨named, unsigned, unbarred, fun c inside => by simpa using List.all_eq_true.mp tokens c inside⟩

variable (register : IsListedRegister base)

include register

theorem notMem {c : Char}
    (other : Token.isCutoff c = true ∨ c = '\n') (selected : List Component)
    (unlettered : c.isAlphanum = false) (undotted : c ≠ '.') :
    c ∉ base ++ Component.suffix selected := by
  rw [List.mem_append, not_or]
  constructor
  · intro inside
    obtain ⟨plain, line⟩ := register.tokens c inside
    rcases other with cutoff | newline
    · rw [plain] at cutoff
      cases cutoff
    · exact line newline
  · intro inside
    rcases mem_suffix c selected inside with dot | letter
    · exact undotted dot
    · rw [unlettered] at letter
      cases letter

theorem isBare (selected : List Component) :
    IsBare (base ++ Component.suffix selected) := by
  obtain ⟨c, rest, rfl⟩ := List.exists_cons_of_ne_nil register.named
  exact ⟨register.unsigned, register.unbarred,
    register.notMem (.inl (by decide)) selected (by decide) (by decide)⟩

theorem unclosed (selected : List Component) :
    ')' ∉ base ++ Component.suffix selected :=
  register.notMem (.inl (by decide)) selected (by decide) (by decide)

theorem isUnmarked (selected : List Component) :
    IsUnmarked (base ++ Component.suffix selected) :=
  .of_bare (register.isBare selected)
    (.of_plain (register.isBare selected).uncalled (register.unclosed selected))

theorem normalizeIndexed {base' : Text}
    (rewritten : IsRewritten base base') (selected : List Component) :
    normalizeIndexed (base ++ Component.suffix selected) =
      .ok (base' ++ Component.suffix selected) := by
  apply normalizeIndexed_of_isRewritten rewritten
  · exact register.notMem (.inr rfl) selected (by decide) (by decide)
  · intro inside
    rcases mem_suffix _ selected inside with dot | letter
    · cases dot
    · cases letter

/-- The modifiers of a listed operand are told apart from the operand. -/
theorem splitModifiers (filled : selected ≠ [])
    (negate absolute : Bool) :
    splitModifiers (listedWith (base ++ Component.suffix selected) negate absolute) =
      ⟨negate, base ++ Component.suffix selected, absolute⟩ := by
  have operand : base ++ Component.suffix selected ≠ [] :=
    List.append_ne_nil_of_left_ne_nil register.named _
  have unmarked := register.isUnmarked selected
  cases absolute with
  | true =>
    have barred : isNumber ('-' :: '|' :: (base ++ Component.suffix selected ++ ['|'])) = false := by
      cases number : isNumber ('-' :: '|' :: (base ++ Component.suffix selected ++ ['|'])) with
      | false => rfl
      | true => exact absurd (by simp) (notMem_of_isNumber number (c := '|') (by decide))
    have split := splitModifiers_signed negate (by simp) barred
    rw [absoluteInner?_bars operand] at split
    exact split
  | false =>
    have worded : isNumber ('-' :: (base ++ Component.suffix selected)) = false :=
      isNumber_suffix ('-' :: base) filled
    have split := splitModifiers_signed negate unmarked.unsigned worded
    rw [unmarked.absoluteInner?_eq_none] at split
    exact split

end IsListedRegister
end Operand

namespace Registers

variable {base base' : Text} {selected : List Component} {negate absolute : Bool} {target : Swizzle}

/-- What an operand without modifiers becomes before it is cast. -/
def expression (registers : Registers) (inner : Text) : Except Fault Text := do
  match ← registers.findName? inner with
  | some name => return name
  | none => normalizeIndexed inner

theorem resolved_eq_map (registers : Registers) {raw inner : Text}
    (split : splitModifiers raw = ⟨negate, inner, absolute⟩) :
    Decoding.resolved registers raw =
      (registers.expression inner).map (applyModifiers · negate absolute) := by
  unfold Decoding.resolved query expression
  rw [split]
  dsimp only
  cases registers.findName? inner with
  | error fault => rfl
  | ok name? =>
    cases name? with
    | some name => rfl
    | none =>
      change (do return Modified.around ⟨negate, inner, absolute⟩ (← normalizeIndexed inner)) = _
      cases normalizeIndexed inner <;> rfl

variable {registers : Registers} {inner : Text}

theorem castInner_unselected {text : Text} (uncalled : '(' ∉ text)
    (unselected : (splitSelector text).2 = [])
    (unlisted : registers.constants.fields.get? text = none) (target : Swizzle) :
    registers.castInner text target = .ok text := by
  unfold castInner
  rw [constructor?_uncalled uncalled, unlisted]
  simp [unselected, reselect]

theorem cast_of_split {expression : Text} (some : target.count ≠ 0)
    (split : splitModifiers expression = ⟨negate, inner, absolute⟩) :
    registers.cast expression target =
      (registers.castInner inner target).map (applyModifiers · negate absolute) := by
  unfold cast
  rw [if_neg some, split]
  dsimp only
  cases registers.castInner inner target <;> rfl

/-- A number that is no constant is not cast, with or without its sign. -/
theorem cast_number (unmarked : IsUnmarked inner) (number : isNumber ('-' :: inner) = true)
    (unlisted : registers.constants.fields.get? inner = none)
    (unlisted' : registers.constants.fields.get? ('-' :: inner) = none) (some : target.count ≠ 0) :
    registers.cast inner target = .ok inner ∧
      registers.cast ('-' :: inner) target = .ok ('-' :: inner) := by
  have uncalled : '(' ∉ '-' :: inner := notMem_of_isNumber number (by decide)
  have unselected (front : Text) {text : Text} (whole : '-' :: inner = front ++ text) :
      (splitSelector text).2 = [] := by
    by_contra filled
    rw [whole, (eq_of_splitSelector filled).1, ← List.append_assoc,
      isNumber_suffix _ filled] at number
    cases number
  have signed : splitModifiers ('-' :: inner) = ⟨false, '-' :: inner, false⟩ := by
    have inside : absoluteInner? ('-' :: inner) = none := rfl
    simp [splitModifiers, number, inside]
  rw [cast_of_split some signed, cast_of_split some unmarked.splitModifiers,
    castInner_unselected (fun inside => uncalled (List.mem_cons_of_mem _ inside))
      (unselected ['-'] rfl) unlisted,
    castInner_unselected uncalled (unselected [] rfl) unlisted']
  exact ⟨rfl, rfl⟩

/-- Modifiers stay around an expression that is cast. -/
theorem cast_applyModifiers (unmarked : IsUnmarked inner)
    (unlisted : isNumber ('-' :: inner) = true →
      registers.constants.fields.get? inner = none ∧
        registers.constants.fields.get? ('-' :: inner) = none)
    (negate absolute : Bool) (target : Swizzle) :
    registers.cast (applyModifiers inner negate absolute) target =
      (registers.cast inner target).map (applyModifiers · negate absolute) := by
  by_cases none : target.count = 0
  · rw [cast, cast, if_pos none, if_pos none]
    rfl
  by_cases number : negate = true ∧ absolute = false ∧ isNumber ('-' :: inner) = true
  · obtain ⟨rfl, rfl, number⟩ := number
    obtain ⟨known, known'⟩ := unlisted number
    obtain ⟨plain, signed⟩ := cast_number unmarked number known known' none
    rw [plain]
    exact signed
  · have worded (negated : negate = true) (bare : absolute = false) :
        isNumber ('-' :: inner) = false := by
      cases found : isNumber ('-' :: inner) with
      | false => rfl
      | true => exact absurd ⟨negated, bare, found⟩ number
    have split := splitModifiers_applyModifiers unmarked negate absolute worded
    rw [cast_of_split none split, cast_of_split none unmarked.splitModifiers]
    cases registers.castInner inner target <;> rfl

theorem isUnmarked_expression (plain : registers.HavePlainNames) {operand name : Text}
    (bare : IsBare operand) (unclosed : ')' ∉ operand)
    (found : registers.expression operand = .ok name) : IsUnmarked name := by
  unfold expression at found
  obtain ⟨name?, looked, found⟩ := exists_of_bind_ok found
  cases name? with
  | some known =>
    cases found
    exact plain.findName? bare.uncalled unclosed looked
  | none => exact isUnmarked_normalizeIndexed bare unclosed found

/-- No constant is accessed by what a sign makes a number. -/
def HasNoNumber (registers : Registers) : Prop :=
  ∀ expression entry, registers.constants.fields.get? expression = some entry →
    isNumber ('-' :: expression) = false

/-- What an operand becomes, modifiers aside, does not hang on its modifiers. -/
theorem cast_resolved_listedWith (plain : registers.HavePlainNames)
    (unnumbered : registers.HasNoNumber) (register : IsListedRegister base) (filled : selected ≠ [])
    (target : Swizzle) (negate absolute : Bool) :
    (do registers.cast (← Decoding.resolved registers
        (listedWith (base ++ Component.suffix selected) negate absolute)) target) =
      (do registers.cast (← registers.expression (base ++ Component.suffix selected)) target).map
        (applyModifiers · negate absolute) := by
  rw [resolved_eq_map registers (register.splitModifiers filled negate absolute)]
  cases found : registers.expression (base ++ Component.suffix selected) with
  | error fault => rfl
  | ok name =>
    have unmarked := isUnmarked_expression plain (register.isBare selected)
      (register.unclosed selected) found
    apply cast_applyModifiers unmarked
    intro number
    constructor
    · cases listed : registers.constants.fields.get? name with
      | none => rfl
      | some entry =>
        rw [unnumbered name entry listed] at number
        cases number
    · cases listed : registers.constants.fields.get? ('-' :: name) with
      | none => rfl
      | some entry => exact absurd rfl (plain.fields _ entry listed).unsigned

/-- A register that no table knows, neither as it is listed nor as it is generated. -/
structure IsUnknown (registers : Registers) (base base' : Text) (selected : List Component) :
    Prop where
  unnamed : registers.query (base ++ Component.suffix selected) = .ok none
  unlisted : registers.constants.fields.get? (base' ++ Component.suffix selected) = none
  unlisted' : registers.constants.fields.get? base' = none

/-- The lanes of a register that stands for itself. -/
theorem cast_rewritten (register : IsListedRegister base) (rewritten : IsRewritten base base')
    {mask : List Component} (sized : selected.length = 1 ∨ selected.length = 4)
    (masked : mask.Sublist Component.all) (written : mask ≠ [])
    (unknown : registers.IsUnknown base base' selected) :
    registers.cast (base' ++ Component.suffix selected) (.ofComponents mask) =
      .ok (base' ++ Component.suffix (lanes selected mask)) := by
  have unmarked : IsUnmarked (base' ++ Component.suffix selected) :=
    isUnmarked_normalizeIndexed (register.isBare selected) (register.unclosed selected)
      (register.normalizeIndexed rewritten selected)
  have filled : selected ≠ [] := by
    rintro rfl
    simp at sized
  have short : selected.length ≤ 4 := by omega
  have named := rewritten.ne_nil register.named
  have some : (Swizzle.ofComponents mask).count ≠ 0 := by
    have count : (Swizzle.ofComponents mask).count = mask.length := List.length_map _
    rw [count]
    simpa using written
  have word := rewritten.constructor?_eq_none (register.isBare selected).uncalled
  have inside : registers.castInner (base' ++ Component.suffix selected) (.ofComponents mask) =
      .ok (base' ++ Component.suffix (lanes selected mask)) := by
    unfold castInner
    rw [word, unknown.unlisted, splitSelector_suffix base' selected named filled short]
    dsimp only
    rw [unknown.unlisted', ite_self]
    dsimp only
    rw [reselect_suffix named filled short mask written, fitted_eq_lanes masked written sized]
    rfl
  rw [cast_of_split some unmarked.splitModifiers, inside]
  rfl

theorem expression_unknown (register : IsListedRegister base) (rewritten : IsRewritten base base')
    (unknown : registers.IsUnknown base base' selected) :
    registers.expression (base ++ Component.suffix selected) =
      .ok (base' ++ Component.suffix selected) := by
  have none : registers.findName? (base ++ Component.suffix selected) = .ok none := by
    have queried := unknown.unnamed
    unfold query at queried
    rw [(register.isBare selected).splitModifiers] at queried
    obtain ⟨name?, found, same⟩ := exists_of_bind_ok queried
    have empty := Option.map_eq_none_iff.mp (Except.ok.inj same)
    rw [found, empty]
  unfold expression
  rw [none]
  exact register.normalizeIndexed rewritten selected

end Registers

namespace Decoding

variable {text : Text}

/-- A source operand is read, resolved and cast. -/
theorem runOn_readSource_of_isOperand (env : Environment) (d : Decoder)
    {operand following : List Token} (ahead : d.cursor.rest = operand ++ following)
    (isOperand : IsOperand d.line operand following text) (target : Swizzle) :
    runOn (readSource target) env d =
      (do env.symbols.registers.cast (← resolved env.symbols.registers text) target,
        d.past operand following d.log) := by
  have raw := runOn_readRawOperand_of_isOperand env d ahead isOperand
  rw [readSource, runOn_bind_of_ok _ _ _ _ _ _ raw, runOn_bind, runOn_resolve]
  cases resolved env.symbols.registers text <;> rfl

/-- A register that no table knows gives each written component the lane at its place in the
selection, and whatever an operand becomes, its sign and absolute value stand around all of it. -/
theorem readSource_lanes_and_modifiers :
    (∀ (env : Environment) (d : Decoder) (operand following : List Token) (base base' : Text)
      (selected mask : List Component),
      IsListedRegister base → IsRewritten base base' →
      (selected.length = 1 ∨ selected.length = 4) →
      mask.Sublist Component.all → mask ≠ [] →
      env.symbols.registers.IsUnknown base base' selected →
      d.cursor.rest = operand ++ following →
      IsOperand d.line operand following (base ++ Component.suffix selected) →
      runOn (readSource (.ofComponents mask)) env d =
        (.ok (base' ++ Component.suffix (lanes selected mask)), d.past operand following d.log)) ∧
    (∀ (declared : Declarations) (env : Environment) (base : Text) (selected : List Component)
      (target : Swizzle),
      declared.resolve.fault = none → declared.HasPlainNames →
      declared.resolve.registers.HasNoNumber →
      env.symbols.registers = declared.resolve.registers →
      IsListedRegister base → (selected.length = 1 ∨ selected.length = 4) →
      ∃ outcome : Except Fault Text, ∀ (negate absolute : Bool) (d : Decoder)
        (operand following : List Token), d.cursor.rest = operand ++ following →
        IsOperand d.line operand following
          (listedWith (base ++ Component.suffix selected) negate absolute) →
        runOn (readSource target) env d =
          (outcome.map (applyModifiers · negate absolute), d.past operand following d.log)) := by
  constructor
  · intro env d operand following base base' selected mask register rewritten sized masked written
      unknown ahead isOperand
    have plain := env.symbols.registers.resolved_eq_map (register.isUnmarked selected).splitModifiers
    rw [runOn_readSource_of_isOperand env d ahead isOperand, plain,
      Registers.expression_unknown register rewritten unknown]
    exact congrArg (fun outcome => (outcome, d.past operand following d.log))
      (Registers.cast_rewritten register rewritten sized masked written unknown)
  · intro declared env base selected target returns plain unnumbered same register sized
    have filled : selected ≠ [] := by
      rintro rfl
      simp at sized
    refine ⟨do declared.resolve.registers.cast (← declared.resolve.registers.expression
      (base ++ Component.suffix selected)) target, ?_⟩
    intro negate absolute d operand following ahead isOperand
    rw [runOn_readSource_of_isOperand env d ahead isOperand, same,
      Registers.cast_resolved_listedWith (plain.resolve returns) unnumbered register filled]

/-- Tokens of one line in front of the decoder. -/
def sourceTokens (texts : List Text) : List Token := texts.map fun text => ⟨text, 7⟩

def beforeTokens (texts : List Text) : Decoder :=
  { cursor := ⟨[], sourceTokens texts⟩, line := some 7 }

/-- A buffer with a vector and a scalar of the given name on one register. -/
def scalarBuffer (name : Text) : Declarations :=
  { buffers := [⟨"Scene", 0, 16,
      [⟨"float3", "tint", 0, 12, .default⟩, ⟨"float", name, 12, 4, .default⟩]⟩] }

def scalarEnvironment (name : Text) : Environment :=
  { symbols := ⟨scalarBuffer name, (scalarBuffer name).resolve.registers⟩ }

theorem hasPlainNames_scalarBuffer {name : Text} (plain : IsPlainName name) :
    (scalarBuffer name).HasPlainNames := by
  have tint : IsPlainName "tint" := .of_fixed (by decide) rfl
  refine ⟨by simp [scalarBuffer], by simp [scalarBuffer], by simp [scalarBuffer], ?_,
    by simp [scalarBuffer]⟩
  intro buffer inside v member
  obtain rfl := List.mem_singleton.mp inside
  rcases List.mem_cons.mp member with rfl | among
  · exact tint
  · obtain rfl := List.mem_singleton.mp among
    exact plain

theorem isOperand_token (closed : bracketsClosed text = true) :
    IsOperand (some 7) (sourceTokens [text]) [] text :=
  .joined (by simp) rfl (.done closed)

theorem isRewritten_relative : IsRewritten "x0[r1.x + 3]" "x0[asuint(r1.x) + 3]" := by
  have solid : ("r1.x" : Text).all (fun c => !Text.isBlank c && c != '+') = true := rfl
  have register : IsIndexRegister "r1.x" :=
    ⟨by decide, fun c inside => by simpa using List.all_eq_true.mp solid c inside⟩
  have index : IsRelative "r1.x + 3" "r1.x" "3" :=
    @IsRelative.added [] "r1.x" " " " " "3" [] (by simp) (List.all_eq_true.mp rfl) register
      (by decide) (List.all_eq_true.mp rfl)
  have nothing : HasNoRelative [] := by
    intro front index rest whole
    simp at whole
  exact @IsRewritten.relative "x0" "r1.x + 3" [] "r1.x" "3" 'x' rfl (by decide)
    (List.all_eq_true.mp rfl) (by decide) (by decide) index (by decide) nothing

theorem hasNoNumber_fog : (scalarBuffer "fog").resolve.registers.HasNoNumber := by
  have each : ∀ field ∈ (scalarBuffer "fog").resolve.registers.constants.fields,
      isNumber ('-' :: field.1) = false := by decide +kernel
  exact fun expression entry listed => each _ (Table.mem_of_get? listed)

theorem readSource_lanes_and_modifiers_fog :
    (IsListedRegister "x0[r1.x + 3]" ∧ IsRewritten "x0[r1.x + 3]" "x0[asuint(r1.x) + 3]" ∧
      runOn (readSource (.ofComponents [.x, .z])) {} (beforeTokens ["x0[r1.x", "+", "3].wzyx"]) =
        (.ok "x0[asuint(r1.x) + 3].wy",
          (beforeTokens ["x0[r1.x", "+", "3].wzyx"]).past
            (sourceTokens ["x0[r1.x", "+", "3].wzyx"]) [] [])) ∧
    (scalarBuffer "fog").resolve.fault = none ∧ (scalarBuffer "fog").HasPlainNames ∧
      (scalarBuffer "fog").resolve.registers.HasNoNumber ∧
      (runOn (readSource ⟨"xy"⟩) (scalarEnvironment "fog") (beforeTokens ["cb0[0].w"])).1 =
        .ok "float2(fog)" ∧
      (runOn (readSource ⟨"xy"⟩) (scalarEnvironment "fog") (beforeTokens ["-|cb0[0].w|"])).1 =
        .ok "-abs(float2(fog))" := by
  have array : IsListedRegister "x0[r1.x + 3]" := .of_fixed (by decide) (by decide) (by decide) rfl
  have constant : IsListedRegister "cb0[0]" := .of_fixed (by decide) (by decide) (by decide) rfl
  have joined : IsOperand (some 7) (sourceTokens ["x0[r1.x", "+", "3].wzyx"]) []
      "x0[r1.x + 3].wzyx" :=
    .joined (by simp) rfl (.more (by decide) rfl (.more (by decide) rfl (.done (by decide))))
  have unknown : Registers.IsUnknown {} "x0[r1.x + 3]" "x0[asuint(r1.x) + 3]" [.w, .z, .y, .x] := by
    refine ⟨?_, rfl, rfl⟩
    apply eq_ok_of_toOption
    decide +kernel
  have returns : (scalarBuffer "fog").resolve.fault = none := by decide +kernel
  have fog : IsPlainName "fog" := .of_fixed (by decide) rfl
  have named := hasPlainNames_scalarBuffer fog
  have lanes := readSource_lanes_and_modifiers.1 {} (beforeTokens ["x0[r1.x", "+", "3].wzyx"]) _ []
    _ _ [.w, .z, .y, .x] [.x, .z] array isRewritten_relative (by decide) (by decide) (by decide)
    unknown (by simp [beforeTokens]) joined
  obtain ⟨outcome, each⟩ := readSource_lanes_and_modifiers.2 (scalarBuffer "fog")
    (scalarEnvironment "fog") "cb0[0]" [.w] ⟨"xy"⟩ returns named hasNoNumber_fog rfl constant (by decide)
  have bare := each false false (beforeTokens ["cb0[0].w"]) (sourceTokens ["cb0[0].w"]) [] rfl
    (isOperand_token (by decide))
  have marked := each true true (beforeTokens ["-|cb0[0].w|"]) (sourceTokens ["-|cb0[0].w|"]) [] rfl
    (isOperand_token (by decide))
  have spread : (runOn (readSource ⟨"xy"⟩) (scalarEnvironment "fog") (beforeTokens ["cb0[0].w"])).1 =
      .ok "float2(fog)" := by
    apply eq_ok_of_toOption
    decide +kernel
  refine ⟨⟨array, isRewritten_relative, lanes⟩, returns, named, hasNoNumber_fog, spread, ?_⟩
  have value : outcome = .ok "float2(fog)" := by
    rw [bare] at spread
    cases outcome with
    | error fault => cases spread
    | ok text => exact spread
  rw [marked, value]
  rfl

theorem readSource_negated_number :
    (scalarBuffer "5").resolve.fault = none ∧ (scalarBuffer "5").HasPlainNames ∧
      (runOn (readSource ⟨"xy"⟩) (scalarEnvironment "5") (beforeTokens ["cb0[0].w"])).1 =
        .ok "float2(5)" ∧
      (runOn (readSource ⟨"xy"⟩) (scalarEnvironment "5") (beforeTokens ["-cb0[0].w"])).1 =
        .ok "-5" := by
  refine ⟨by decide +kernel, hasPlainNames_scalarBuffer (.of_fixed (by decide) rfl), ?_, ?_⟩
  · apply eq_ok_of_toOption
    decide +kernel
  · apply eq_ok_of_toOption
    decide +kernel

end Decoding
end ShaderLift
