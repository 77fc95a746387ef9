import ShaderLift.Proofs.Transparency.Line
import ShaderLift.Proofs.Transparency.Turn

namespace ShaderLift

namespace Decoding

variable {env : Environment} {seam : Seam} {d d' : Decoder}

/-- Two runs end with the same context, and with the same fault if they fail. -/
structure SameEnd (run run' : Run) : Prop where
  context : run'.final.context = run.final.context
  outcome : run'.outcome.mapError Fault.unlocated = run.outcome.mapError Fault.unlocated

theorem Facing.rest_eq_far {rest rest' : List Token} (facing : Facing seam rest rest')
    (behind : ¬ seam.far.length < rest.length) : rest = seam.far ∧ rest' = seam.far' := by
  cases facing with
  | behind => exact ⟨rfl, rfl⟩
  | cons inFront later =>
    obtain ⟨near, count, -⟩ := later.lengths
    rw [List.length_cons] at behind
    omega

/-- Runs that are level end the same if they do so from the seam on. -/
theorem turns_alike (level : Level seam d d')
    (spares : ∀ s ∈ statesFrom env d, seam.far.length < s.cursor.rest.length → seam.Spares env s)
    (onward : ∀ s s', Level seam s s' → s.cursor.rest = seam.far → s'.cursor.rest = seam.far' →
      SameEnd (turns env s) (turns env s')) :
    SameEnd (turns env d) (turns env d') := by
  induction d using turns_induction env generalizing d' with
  | step d ih =>
    by_cases more : seam.far.length < d.cursor.rest.length
    · obtain ⟨near, count, count'⟩ := level.rest.lengths
      have going : d.cursor.atEnd = false := by
        rw [← Bool.not_eq_true, atEnd_iff]
        omega
      have going' : d'.cursor.atEnd = false := by
        rw [← Bool.not_eq_true, atEnd_iff]
        omega
      have turned := turn_alike level more (spares d (mem_statesFrom env d) more)
      generalize run : runOn turn env d = result at turned
      generalize run' : runOn turn env d' = result' at turned
      cases turned with
      | error same context =>
        rw [(turns_of_error going run).1, (turns_of_error going' run').1]
        exact ⟨context, congrArg Except.error same⟩
      | ok value level =>
        obtain ⟨first, through⟩ := turns_of_ok run
        obtain ⟨first', _⟩ := turns_of_ok run'
        have rest := ih _ run level fun s inside =>
          spares s (by rw [through]; exact List.mem_cons_of_mem _ inside)
        rw [first, first']
        exact ⟨rest.context, rest.outcome⟩
    · obtain ⟨ahead, ahead'⟩ := level.rest.rest_eq_far more
      exact onward d d' level ahead ahead'

/-- Tokens that are no mnemonics are passed one by one. -/
theorem turns_skip (env : Environment) (skipped : List Token) {rest : List Token}
    (unknown : ∀ token ∈ skipped, Instruction.classify? token.text = none)
    (ahead : d.cursor.rest = skipped ++ rest) :
    ∃ s, s.context = d.context ∧ s.instruction = d.instruction ∧ s.cursor.rest = rest ∧
      (turns env d).outcome = (turns env s).outcome ∧ (turns env d).final = (turns env s).final := by
  induction skipped generalizing d with
  | nil => exact ⟨d, rfl, rfl, ahead, rfl, rfl⟩
  | cons token skipped ih =>
    obtain ⟨skippedLine, log, read⟩ := runOn_readInstruction_none env d token _ ahead
      (unknown token (List.mem_cons_self ..))
    have turned : runOn turn env d = _ := runOn_bind_of_ok _ _ _ _ _ _ read
    obtain ⟨s, context, instruction, left, outcome, final⟩ :=
      ih (d := { atMnemonic d token (skipped ++ rest) with skippedLine, log })
        (fun token inside => unknown token (List.mem_cons_of_mem _ inside)) rfl
    have first := (turns_of_ok turned).1
    refine ⟨s, context, instruction, left, ?_, ?_⟩
    · rw [first]
      exact outcome
    · rw [first]
      exact final

/-- The first tag in front of a place is found whatever lies behind the place. -/
theorem stageFrom_tagged {front : List Token}
    (tagged : ∃ token ∈ front, (Stage.ofTag? token.text).isSome = true) (passed : List Token) :
    ∃ found passed' near, near <:+ front ∧
      ∀ far, stageFrom passed (front ++ far) = (some found, ⟨passed', near ++ far⟩) := by
  induction front generalizing passed with
  | nil =>
    obtain ⟨token, inside, -⟩ := tagged
    cases inside
  | cons token front ih =>
    cases tag : Stage.ofTag? token.text with
    | some stage =>
      refine ⟨(stage, token), token :: passed, front, List.suffix_cons token front, fun far => ?_⟩
      simp only [List.cons_append, stageFrom, tag]
    | none =>
      have later : ∃ token ∈ front, (Stage.ofTag? token.text).isSome = true := by
        obtain ⟨other, inside, isTag⟩ := tagged
        rcases List.mem_cons.mp inside with rfl | behind
        · rw [tag] at isTag
          cases isTag
        · exact ⟨other, behind, isTag⟩
      obtain ⟨found, passed', near, left, run⟩ := ih later (token :: passed)
      refine ⟨found, passed', near, left.trans (List.suffix_cons token front), fun far => ?_⟩
      simp only [List.cons_append, stageFrom, tag, run]

theorem finish_alike (context : d'.context = d.context) :
    (runOn finish env d').1.mapError Fault.unlocated =
      (runOn finish env d).1.mapError Fault.unlocated := by
  rw [finish, runOn_bind, runOn_bind, runOn_get, runOn_get]
  dsimp only
  rw [context]
  split
  · rw [runOn_bind, runOn_bind, runOn_unbalanced, runOn_unbalanced]
    cases env.config.strict with
    | true => rfl
    | false => rfl
  · rfl

theorem SameEnd.finished {run run' : Run} (same : SameEnd run run') :
    SameEnd (finished env run) (finished env run') := by
  refine ⟨?_, ?_⟩
  · rw [finished_context, finished_context, same.context]
  · have outcome := same.outcome
    unfold Decoding.finished
    cases ended : run.outcome with
    | error fault =>
      cases ended' : run'.outcome with
      | error fault' =>
        rw [ended, ended'] at outcome
        dsimp only
        rw [ended, ended']
        exact outcome
      | ok _ =>
        rw [ended, ended'] at outcome
        cases outcome
    | ok _ =>
      cases ended' : run'.outcome with
      | error fault' =>
        rw [ended, ended'] at outcome
        cases outcome
      | ok _ => exact finish_alike same.context

theorem Facing.of_near {near : List Token} (inFront : ∀ token ∈ near, token.line ≤ seam.last) :
    Facing seam (near ++ seam.far) (near.map (Token.shift seam.shift) ++ seam.far') := by
  induction near with
  | nil => exact .behind
  | cons token near ih =>
    exact .cons (inFront token (List.mem_cons_self ..))
      (ih fun token inside => inFront token (List.mem_cons_of_mem _ inside))

/-- The end of two listings. -/
def Seam.ending (last shift : Int) : Seam where
  last := last
  shift := shift
  far := []
  far' := []
  apart := nofun
  apart' := nofun
  brace := nofun

/-- The place of one more line. -/
def Seam.insertion (front : List Text) {extra : Text} {back : List Text}
    (unsupported : IsUnsupported extra)
    (starts : ∀ line ∈ back, (Token.ofLine line).head? ≠ some ("(" : Text)) : Seam where
  last := front.length
  shift := 0
  far := Token.ofLines (1 + front.length) back
  far' := Token.ofLines (1 + front.length) (extra :: back)
  apart := by
    intro token first
    have bounds := Token.line_ofLines (List.mem_of_head? first)
    refine ⟨by omega, fun opens => ?_⟩
    obtain ⟨line, inside, begins⟩ := Token.head_ofLines first
    exact starts line inside (by rw [begins, opens])
  apart' := by
    intro token first
    have bounds := Token.line_ofLines (List.mem_of_head? first)
    refine ⟨by omega, fun opens => ?_⟩
    obtain ⟨line, inside, begins⟩ := Token.head_ofLines first
    rcases List.mem_cons.mp inside with rfl | inside
    · exact unsupported.tokens.2.1 (by rw [begins, opens])
    · exact starts line inside (by rw [begins, opens])
  brace := by
    intro token first opens
    rw [Token.ofLines] at first
    cases texts : Token.ofLine extra with
    | nil =>
      rw [texts, List.map_nil, List.nil_append, Token.ofLines_shift, List.head?_map] at first
      obtain ⟨before, found, rfl⟩ := Option.map_eq_some_iff.mp first
      exact ⟨before, found, opens⟩
    | cons text rest =>
      rw [texts] at first
      cases first
      exact absurd (by rw [texts, ← opens]; rfl) unsupported.tokens.2.2

/-- A place in a listing, in front of some of its lines, is inside a declaration of constants: the
decoder comes to the declaration in front of the place and reads on behind it, or to the end. -/
def InsideConstants (env : Environment) (listing : Text) (back : List Text) : Prop :=
  ∃ d ∈ states env listing, ∃ instruction,
    (runOn readInstruction env d).1 = .ok (some instruction) ∧
    instruction.opcode.family = .declareConstants ∧
    (back.flatMap Token.ofLine).length < d.cursor.rest.length ∧
    RunsPast (back.flatMap Token.ofLine).length (runOn turn env d).1 (runOn turn env d).2.cursor

/-- Decoders at the same place go on alike when all that is left is some lines further down. -/
theorem turns_further_down (env : Environment) {number shift : Int} {back : List Text}
    (context : d'.context = d.context) (instruction : d'.instruction = d.instruction)
    (ahead : d.cursor.rest = Token.ofLines number back)
    (ahead' : d'.cursor.rest = Token.ofLines (number + shift) back) :
    SameEnd (turns env d) (turns env d') := by
  let seam := Seam.ending (number + back.length) shift
  have facing : Facing seam (d.cursor.rest ++ seam.far)
      (d.cursor.rest.map (Token.shift seam.shift) ++ seam.far') := by
    apply Facing.of_near
    intro token inside
    rw [ahead] at inside
    exact Int.le_of_lt (Token.line_ofLines inside).2
  have level : Level seam d d' := by
    refine ⟨context, instruction, ?_⟩
    rw [ahead', Token.ofLines_shift, ← ahead]
    simpa only [seam, Seam.ending, List.append_nil] using facing
  apply turns_alike level
  · intro s _ _ _ _ _
    exact .inl ⟨rfl, rfl⟩
  · intro s s' level none none'
    have ended (s : Decoder) (none : s.cursor.rest = []) : s.cursor.atEnd = true := by
      rw [Cursor.atEnd, none, List.isEmpty_nil]
    rw [(turns_of_end env (ended s none)).1, (turns_of_end env (ended s' none')).1]
    exact ⟨level.context, rfl⟩

theorem turns_insertion (env : Environment) {front back : List Text} {extra : Text}
    (unsupported : IsUnsupported extra)
    (starts : ∀ line ∈ back, (Token.ofLine line).head? ≠ some ("(" : Text))
    (level : Level (.insertion front unsupported starts) d d')
    (outside : ∀ s ∈ statesFrom env d, ∀ instruction,
      (runOn readInstruction env s).1 = .ok (some instruction) →
      instruction.opcode.family = .declareConstants →
      (back.flatMap Token.ofLine).length < s.cursor.rest.length →
      ¬ RunsPast (back.flatMap Token.ofLine).length (runOn turn env s).1
        (runOn turn env s).2.cursor) :
    SameEnd (turns env d) (turns env d') := by
  apply turns_alike level
  · intro s inside more instruction read declares
    have count : (Seam.insertion front unsupported starts).far.length =
        (back.flatMap Token.ofLine).length := Token.length_ofLines _ back
    right
    rw [count] at more ⊢
    exact outside s inside instruction read declares more
  · intro s s' level ahead ahead'
    -- The tokens of the line are passed on one side only.
    have unknown : ∀ token ∈ (Token.ofLine extra).map fun text => ⟨text, 1 + front.length⟩,
        Instruction.classify? (Token.text token) = none := by
      intro token inside
      obtain ⟨text, among, rfl⟩ := List.mem_map.mp inside
      exact unsupported.tokens.1 text among
    obtain ⟨passed, context, instruction, left, outcome, final⟩ := turns_skip env _ unknown ahead'
    have rest := turns_further_down env (context.trans level.context)
      (instruction.trans level.instruction) ahead left
    exact ⟨by rw [final, rest.context], by rw [outcome, rest.outcome]⟩

/-- The stage tag is found in front of a place, whatever follows. -/
theorem findStage_front (env : Environment) {front : List Text}
    (tagged : ∃ line ∈ front, ∃ text ∈ Token.ofLine line, (Stage.ofTag? text).isSome = true) :
    ∃ (near : List Token) (start : Decoder), near <:+ Token.ofLines 1 front ∧ ∀ listing far,
      tokenize listing = Token.ofLines 1 front ++ far →
      runOn findStage env { cursor := .ofText listing } =
        (.ok (), { start with cursor := ⟨start.cursor.passed, near ++ far⟩ }) := by
  have tag : ∃ token ∈ Token.ofLines 1 front, (Stage.ofTag? token.text).isSome = true := by
    obtain ⟨line, inside, text, among, isTag⟩ := tagged
    obtain ⟨before, behind, rfl⟩ := List.append_of_mem inside
    refine ⟨⟨text, 1 + before.length⟩, ?_, isTag⟩
    rw [Token.ofLines_append, Token.ofLines]
    exact List.mem_append_right _ (List.mem_append_left _ (List.mem_map.mpr ⟨text, among, rfl⟩))
  obtain ⟨⟨stage, token⟩, passed, near, left, search⟩ := stageFrom_tagged tag []
  refine ⟨near, { cursor := ⟨passed, []⟩, context := { stage := some stage }
                  log := [.stageFound token.text token.line] }, left, fun listing far tokens => ?_⟩
  rw [runOn_findStage]
  simp only [Cursor.ofText, Cursor.ofTokens, tokens, search]
  rfl

/-- A line without an instruction between two lines behind the stage tag changes nothing but line
numbers, unless constants are declared around it or a line behind it begins with a parenthesis. -/
theorem unsupported_line_transparent (env : Environment) (listing listing' : Text)
    (front back : List Text) (extra : Text) (lines : Text.lines listing = front ++ back)
    (lines' : Text.lines listing' = front ++ extra :: back)
    (tagged : ∃ line ∈ front, ∃ text ∈ Token.ofLine line, (Stage.ofTag? text).isSome = true)
    (starts : ∀ line ∈ back, (Token.ofLine line).head? ≠ some ("(" : Text))
    (unsupported : IsUnsupported extra) (outside : ¬ InsideConstants env listing back) :
    (decodeBody env listing').final.context = (decodeBody env listing).final.context ∧
      (decodeBody env listing').outcome.mapError Fault.unlocated =
        (decodeBody env listing).outcome.mapError Fault.unlocated := by
  let seam := Seam.insertion front unsupported starts
  obtain ⟨near, start, left, found⟩ := findStage_front env tagged
  have first := found listing seam.far (by rw [tokenize, lines, Token.ofLines_append]; rfl)
  have first' := found listing' seam.far' (by rw [tokenize, lines', Token.ofLines_append]; rfl)
  have facing : Facing seam (near ++ seam.far) (near ++ seam.far') := by
    have same : near.map (Token.shift seam.shift) = near :=
      (List.map_congr_left fun token _ => token.shift_zero).trans (List.map_id near)
    have inFront : ∀ token ∈ near, token.line ≤ seam.last := by
      intro token inside
      have bounds := Token.line_ofLines (left.subset inside)
      show token.line ≤ front.length
      omega
    have facing := Facing.of_near inFront
    rwa [same] at facing
  let d : Decoder := { start with cursor := ⟨start.cursor.passed, near ++ seam.far⟩ }
  let d' : Decoder := { start with cursor := ⟨start.cursor.passed, near ++ seam.far'⟩ }
  have level : Level seam d d' := ⟨rfl, rfl, facing⟩
  have through : states env listing = statesFrom env d := by
    simp only [states, first]
    rfl
  have same : SameEnd (turns env d) (turns env d') := by
    apply turns_insertion env unsupported starts level
    intro s inside instruction read declares more past
    rw [← through] at inside
    exact outside ⟨s, inside, instruction, read, declares, more, past⟩
  rw [decodeBody_of_stage first, decodeBody_of_stage first']
  exact ⟨same.finished.context, same.finished.outcome⟩

/-- A line between a declaration of constants and an instruction that lacks an operand, which is
found missing one line further down. -/
theorem unsupported_line_transparent_constants :
    let env : Environment := {}
    let front : List Text :=
      ["ps_5_0", "dcl_immediateConstantBuffer \x7b \x7b 1.0, 2.0, 3.0, 4.0\x7d \x7d"]
    let extra : Text := "frobnicate r0.x (1) // r1"
    let back : List Text := ["mov r0.x, l(1.0)", "mov r0.y,", "ret"]
    let listing := Text.join "\n" (front ++ back)
    let listing' := Text.join "\n" (front ++ extra :: back)
    IsUnsupported extra ∧ ¬ InsideConstants env listing back ∧
      (decodeBody env listing').final.context = (decodeBody env listing).final.context ∧
      (decodeBody env listing').outcome.mapError Fault.unlocated =
        (decodeBody env listing).outcome.mapError Fault.unlocated ∧
      (decodeBody env listing).outcome = .error (.decode (.missingOperand (some "mov")) (some 4)) ∧
      (decodeBody env listing').outcome = .error (.decode (.missingOperand (some "mov")) (some 5)) := by
  intro env front extra back listing listing'
  obtain ⟨lines, lines', tagged, starts, rejected, opens, opens', outcome, outcome', within⟩ :
      Text.lines listing = front ++ back ∧ Text.lines listing' = front ++ extra :: back ∧
      (∃ line ∈ front, ∃ text ∈ Token.ofLine line, (Stage.ofTag? text).isSome = true) ∧
      (∀ line ∈ back, (Token.ofLine line).head? ≠ some ("(" : Text)) ∧
      (∀ text ∈ Token.ofLine extra, Instruction.classify? text = none) ∧
      (Token.ofLine extra).head? ≠ some ("(" : Text) ∧
      (Token.ofLine extra).head? ≠ some ("\x7b" : Text) ∧
      (decodeBody env listing).outcome = .error (.decode (.missingOperand (some "mov")) (some 4)) ∧
      (decodeBody env listing').outcome = .error (.decode (.missingOperand (some "mov")) (some 5)) ∧
      (∀ d ∈ states env listing, (back.flatMap Token.ofLine).length < d.cursor.rest.length →
        (back.flatMap Token.ofLine).length ≤ (runOn turn env d).2.cursor.rest.length ∧
          (runOn turn env d).1.isOk = true) := by
    decide +kernel
  have unsupported : IsUnsupported extra := .inr ⟨rejected, opens, opens'⟩
  have outside : ¬ InsideConstants env listing back := by
    rintro ⟨d, inside, _, _, _, more, past⟩
    obtain ⟨short, completed⟩ := within d inside more
    rcases past with beyond | ⟨line, failed⟩
    · omega
    · rw [failed] at completed
      cases completed
  obtain ⟨context, same⟩ := unsupported_line_transparent env listing listing' front back extra lines
    lines' tagged starts unsupported outside
  exact ⟨unsupported, outside, context, same, outcome, outcome'⟩

end Decoding
end ShaderLift
