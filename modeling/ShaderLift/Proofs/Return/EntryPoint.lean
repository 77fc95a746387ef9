import ShaderLift.Conversion
import ShaderLift.Proofs.Return.Statement
import ShaderLift.Proofs.Shader.Lines

namespace ShaderLift

namespace Decoding

variable {d reached : Decoder}

variable {env : Environment}

/-- The instructions of a listing, in the order in which they are decoded. -/
def instructions (env : Environment) (listing : Text) : List Instruction :=
  (states env listing).filterMap (instructionAt? env)

/-- Behind an instruction that is no declaration there is none. -/
def DeclarationsFirst (instructions : List Instruction) : Prop :=
  instructions.Pairwise fun earlier later =>
    later.isDeclaration = true → earlier.isDeclaration = true

instance (instructions : List Instruction) : Decidable (DeclarationsFirst instructions) :=
  inferInstanceAs (Decidable (List.Pairwise _ _))

/-- A turn from a decoder on reads an instruction and adds a statement. -/
def AddsAt (env : Environment) (d : Decoder) (instruction : Instruction) (s : Statement) : Prop :=
  ∃ middle reached added, runOn readInstruction env d = (.ok (some instruction), middle) ∧
    runOn turn env d = (.ok (), reached) ∧
    reached.context.statements = d.context.statements ++ added ∧ s ∈ added

/-- A statement of a decoded listing comes from an instruction. -/
def AddedBy (env : Environment) (listing : Text) (instruction : Instruction) (s : Statement) :
    Prop :=
  ∃ d ∈ states env listing, AddsAt env d instruction s

theorem turn_fits (completed : runOn turn env d = (.ok (), reached)) :
    ∃ added, reached.context.statements = d.context.statements ++ added ∧
      ∀ s ∈ added, ∃ instruction, instructionAt? env d = some instruction ∧
        Fits env d.context instruction s := by
  obtain ⟨middle, read⟩ := turn_read completed
  have whole : runOn turn env d = _ := runOn_bind_of_ok _ _ _ _ _ _ read
  rw [completed] at whole
  rw [← readInstruction_context read]
  cases found : instructionAt? env d with
  | none =>
    rw [found] at whole
    cases whole
    exact ⟨[], (List.append_nil _).symm, by simp⟩
  | some instruction =>
    rw [found] at whole
    obtain ⟨added, extended, fits⟩ := dispatch_fits whole.symm
    exact ⟨added, extended, fun s inside => ⟨instruction, rfl, fits s inside⟩⟩

theorem AddsAt.fits {instruction : Instruction} {s : Statement}
    (adds : AddsAt env d instruction s) : Fits env d.context instruction s := by
  obtain ⟨middle, reached, added, read, completed, extended, inside⟩ := adds
  obtain ⟨added', extended', fits⟩ := turn_fits completed
  have same : added = added' := List.append_cancel_left (extended.symm.trans extended')
  rw [same] at inside
  obtain ⟨instruction', found, fit⟩ := fits s inside
  rw [instructionAt?_eq read] at found
  cases found
  exact fit

/-- Completed turns lead from one decoder through some to the end of the listing. -/
inductive Completes (env : Environment) : Decoder → List Decoder → Decoder → Prop
  | done {d : Decoder} (ended : d.cursor.atEnd = true) : Completes env d [d] d
  | turn {d reached final : Decoder} {through : List Decoder}
      (completed : runOn Decoding.turn env d = (.ok (), reached))
      (later : Completes env reached through final) : Completes env d (d :: through) final

theorem completes_turns (env : Environment) (d : Decoder) :
    (turns env d).outcome = .ok () → Completes env d (statesFrom env d) (turns env d).final := by
  induction d using turns_induction env with
  | step d ih =>
    intro finished
    cases ended : d.cursor.atEnd with
    | true =>
      have run := turns_of_end env ended
      rw [run.1, run.2]
      exact .done ended
    | false =>
      rcases turned : runOn turn env d with ⟨fault | _, reached⟩
      · rw [(turns_of_error ended turned).1] at finished
        cases finished
      · have run := turns_of_ok turned
        rw [run.1] at finished
        rw [run.1, run.2]
        exact .turn turned (ih reached turned finished)

namespace Completes

variable {e : Decoder} {instruction : Instruction} {s : Statement}

variable {d final : Decoder} {through : List Decoder}

variable (run : Completes env d through final)

include run

/-- Statements are never taken back. -/
theorem grows :
    d.context.statements <+: final.context.statements := by
  induction run with
  | done => exact List.prefix_refl _
  | turn completed later ih =>
    obtain ⟨added, extended, _⟩ := turn_fits completed
    rw [extended] at ih
    exact (List.prefix_append _ added).trans ih

theorem mem_of_addsAt (among : e ∈ through)
    (adds : AddsAt env e instruction s) : s ∈ final.context.statements := by
  obtain ⟨middle, reached, added, read, completed, extended, inside⟩ := adds
  have here : s ∈ reached.context.statements := by
    rw [extended]
    exact List.mem_append_right _ inside
  induction run with
  | done ended =>
    -- the last decoder has no token left to take
    rw [List.mem_singleton.mp among] at completed
    have shorter := turn_shortens completed
    rw [(atEnd_iff _).mp ended] at shorter
    cases shorter
  | turn first later ih =>
    rcases List.mem_cons.mp among with rfl | among
    · rw [completed] at first
      cases first
      exact later.grows.subset here
    · exact ih among

/-- A statement that is there in the end was there before or comes from an instruction. -/
theorem exists_addsAt (inside : s ∈ final.context.statements) :
    s ∈ d.context.statements ∨ ∃ e ∈ through, ∃ instruction, AddsAt env e instruction s := by
  induction run with
  | done => exact .inl inside
  | @turn d reached final through completed later ih =>
    rcases ih inside with earlier | ⟨e, among, instruction, adds⟩
    · obtain ⟨added, extended, fits⟩ := turn_fits completed
      rw [extended] at earlier
      rcases List.mem_append.mp earlier with before | here
      · exact .inl before
      · obtain ⟨instruction, found, _⟩ := fits s here
        obtain ⟨middle, read⟩ := turn_read completed
        rw [found] at read
        exact .inr ⟨d, List.mem_cons_self .., instruction, middle, reached, added, read, completed,
          extended, here⟩
    · exact .inr ⟨e, List.mem_cons_of_mem d among, instruction, adds⟩

/-- Without declarations, stage and topology stay as they are. -/
theorem target_settled (settled : ∀ instruction ∈ through.filterMap (instructionAt? env),
      instruction.isDeclaration = false) :
    final.context.target = d.context.target := by
  induction run with
  | done => rfl
  | @turn d reached final through completed later ih =>
    obtain ⟨middle, read⟩ := turn_read completed
    have here : reached.context.target = d.context.target := by
      refine turn_target read completed fun instruction found => settled instruction ?_
      exact List.mem_filterMap.mpr ⟨d, List.mem_cons_self .., found⟩
    rw [← here]
    apply ih
    intro instruction inside
    obtain ⟨e, among, found⟩ := List.mem_filterMap.mp inside
    exact settled instruction (List.mem_filterMap.mpr ⟨e, List.mem_cons_of_mem d among, found⟩)

/-- From the first instruction on that is no declaration, stage and topology are those of the end. -/
theorem target_final
    (ordered : DeclarationsFirst (through.filterMap (instructionAt? env))) (inside : e ∈ through)
    (found : instructionAt? env e = some instruction) (other : instruction.isDeclaration = false) :
    final.context.target = e.context.target := by
  induction run with
  | done => rw [List.mem_singleton.mp inside]
  | @turn d reached final through completed later ih =>
    rcases List.mem_cons.mp inside with rfl | inside
    · rw [List.filterMap_cons_some found] at ordered
      obtain ⟨behind, _⟩ := List.pairwise_cons.mp ordered
      obtain ⟨middle, read⟩ := turn_read completed
      have here : reached.context.target = e.context.target := by
        refine turn_target read completed fun instruction' found' => ?_
        rw [found] at found'
        cases found'
        exact other
      rw [← here]
      apply later.target_settled
      intro later' among
      have first := behind later' among
      rw [other] at first
      simpa using first
    · refine ih ?_ inside
      cases found' : instructionAt? env d with
      | none => rwa [List.filterMap_cons_none found'] at ordered
      | some instruction' =>
        rw [List.filterMap_cons_some found'] at ordered
        exact (List.pairwise_cons.mp ordered).2

end Completes
end Decoding

namespace ShaderSource

/-- The lines between the braces of the entry point. -/
def entryBody (u : ShaderSource) : List Text :=
  (if u.hasOutput then
    [u.config.indent ++ u.outputType ++ " output = (" ++ u.outputType ++ ")0;"] else []) ++
  u.context.statements.map (fun s => bodyLine u.config.indent (s.render u.config.indent)) ++
  if u.returnsOutput then [u.config.indent ++ "return output;"] else []

/-- The line in front of the body of the entry point. -/
def entryHead (u : ShaderSource) : Text :=
  (if u.returnsOutput then u.outputType else "void") ++ " " ++ u.config.entryPoint ++ "(" ++
    Text.commaList (u.parameters.map Parameter.declaration) ++ ")"

theorem entryPoint_eq (u : ShaderSource) :
    u.entryPoint =
      u.entryAttribute ++ u.entryHead :: ['\x7b'] :: u.entryBody ++ [['\x7d']] := by
  simp only [entryPoint, entryHead, entryBody, List.append_assoc, List.cons_append,
    List.nil_append]

/-- A source ends with its entry point. -/
theorem render_entryPoint (u : ShaderSource) :
    ∃ front, u.render = front ++ '\n' :: Text.join ['\n'] u.entryPoint ++ ['\n'] := by
  have filled : u.entryPoint ≠ [] := List.ne_nil_of_mem u.entryPoint_closes
  obtain ⟨opened, closed⟩ : ∃ opened, Text.join ['\n'] u.entryPoint = opened ++ ['\x7d'] := by
    refine ⟨Text.join ['\n'] (u.entryAttribute ++ u.entryHead :: ['\x7b'] :: u.entryBody) ++
      ['\n'], ?_⟩
    rw [entryPoint_eq, Text.join_append _ _ _ (by simp) (by simp)]
    rfl
  have trimmed : Text.trimEnd (Text.join ['\n'] (u.entryPoint ++ [[]])) =
      Text.join ['\n'] u.entryPoint := by
    rw [Text.join_append _ _ _ filled (by simp), closed]
    have kept := Text.trimEnd_append_visible opened ['\n'] '\x7d' (by decide)
    rw [show Text.trimEnd ['\n'] = [] by decide] at kept
    simpa [Text.join] using kept
  have visible : ∃ c ∈ Text.join ['\n'] (u.entryPoint ++ [[]]), Text.isBlank c = false :=
    ⟨'\x7d', Text.mem_join (List.mem_append_left _ u.entryPoint_closes)
      (List.mem_singleton.mpr rfl), by decide⟩
  refine ⟨Text.join ['\n'] (banner ++ [[]] ++ paragraphs u.middle), ?_⟩
  rw [render_eq, Text.join_append _ _ _ (by simp [banner]) (by simp),
    Text.trimEnd_append _ _ visible, trimmed]
  simp

theorem stage_compute (u : ShaderSource) :
    u.stage = .compute ↔ u.context.stage = some .compute := by
  unfold stage
  cases u.context.stage with
  | none => simp
  | some stage => simp

/-- The return that the type of the entry point asks for. -/
def leaving (u : ShaderSource) : Text := if u.returnsOutput then "return output;" else "return;"

/-- What a return is decoded to in the final context is what the type asks for. -/
theorem returnText_eq (u : ShaderSource) :
    Decoding.returnText ⟨u.symbols, u.config⟩ u.context = u.leaving := by
  have compute := u.stage_compute
  rw [Decoding.returnText, leaving, returnsOutput, hasOutput, outputFields]
  by_cases stage : u.context.stage = some .compute
  · simp [stage, compute.mpr stage]
  · have other : u.stage ≠ .compute := fun same => stage (compute.mp same)
    rcases u.context.hasOutputStream with _ | _
    · rcases u.symbols.registers.outputs.fields.isEmpty with _ | _
      · simp [stage, other]
      · simp
    · simp

theorem trimStart_bodyLine {indent : Text} (blank : ∀ c ∈ indent, Text.isBlank c = true)
    (s : Statement) : Text.trimStart (bodyLine indent (s.render indent)) = Text.trimStart s.body := by
  have inner : Text.trimStart (s.render indent) = Text.trimStart s.body :=
    Text.trimStart_append _ _ fun c inside => blank c (Text.mem_times c s.depth indent inside)
  unfold bodyLine
  split
  · rename_i empty
    rw [← inner, List.isEmpty_iff.mp empty]
  · rw [Text.trimStart_append _ _ blank, inner]

/-- The body of the entry point ends with the return of the output exactly if the entry point
returns it. -/
theorem entryBody_last (u : ShaderSource)
    (blank : ∀ c ∈ u.config.indent, Text.isBlank c = true)
    (returns : ∀ s ∈ u.context.statements, Decoding.IsReturn s.body → s.body = u.leaving) :
    u.entryBody.getLast?.map Text.trimStart = some ("return output;" : Text) ↔
      u.returnsOutput = true := by
  cases output : u.returnsOutput with
  | true =>
    have last : u.entryBody.getLast? = some (u.config.indent ++ "return output;") := by
      rw [entryBody, output, if_pos rfl, List.getLast?_append]
      rfl
    rw [last, Option.map_some, Text.trimStart_append _ _ blank]
    exact ⟨fun _ => rfl, fun _ => rfl⟩
  | false =>
    refine ⟨fun last => ?_, nofun⟩
    obtain ⟨line, final, trimmed⟩ := Option.map_eq_some_iff.mp last
    have inside := List.mem_of_getLast? final
    simp only [entryBody, output, Bool.false_eq_true, if_false, List.append_nil] at inside
    rcases List.mem_append.mp inside with declared | decoded
    · -- the line that declares the output is an equation
      have equation : '=' ∈ line := by
        split at declared
        · rw [List.mem_singleton.mp declared]
          simp
        · cases declared
      have kept := Text.mem_trimStart '=' line (by decide) equation
      rw [trimmed] at kept
      exact absurd kept (by decide)
    · obtain ⟨s, among, rfl⟩ := List.mem_map.mp decoded
      rw [trimStart_bodyLine blank] at trimmed
      have other := returns s among (.inr trimmed)
      rw [leaving, output, if_neg (by decide)] at other
      rw [other] at trimmed
      exact absurd trimmed (by decide)

end ShaderSource

namespace Decoding

variable {env : Environment}

/-- What a return adds is what the final context asks for, if declarations come first. -/
theorem Completes.leavesBy {d final e : Decoder} {through : List Decoder}
    (run : Completes env d through final)
    (ordered : DeclarationsFirst (through.filterMap (instructionAt? env))) {instruction : Instruction}
    {s : Statement} (among : e ∈ through) (adds : AddsAt env e instruction s)
    (returns : instruction.isReturn = true) : LeavesBy (returnText env final.context) s := by
  have leaves := adds.fits.leaves returns
  obtain ⟨middle, reached, added, read, _⟩ := adds
  have other := (readInstruction_isListed read).not_declaration returns
  have same := run.target_final ordered among (instructionAt?_eq read) other
  rwa [returnText_of_target same]

/-- Decoding and source agree on what the entry point returns, if declarations come before all other
instructions. The statements that returns add leave the entry point in the way that its type asks
for, and nothing else among the statements is a return. The source ends with the entry point, whose
body ends with the return of the output exactly if that is its type. -/
theorem returns_agree (env : Environment) (listing : Text)
    (ordered : DeclarationsFirst (instructions env listing))
    (decoded : (decodeBody env listing).outcome = .ok ()) :
    let u : ShaderSource := ⟨env.symbols, (decodeBody env listing).final.context, env.config⟩
    (∀ instruction s, AddedBy env listing instruction s → instruction.isReturn = true →
      s ∈ u.context.statements ∧ LeavesBy u.leaving s) ∧
    (∀ s ∈ u.context.statements, IsReturn s.body → s.body = u.leaving ∧
      ∃ instruction, AddedBy env listing instruction s ∧ instruction.isReturn = true) ∧
    (∃ front, u.render = front ++ '\n' :: Text.join ['\n']
      (u.entryAttribute ++ u.entryHead :: ['\x7b'] :: u.entryBody ++ [['\x7d']]) ++ ['\n']) ∧
    ((∀ c ∈ env.config.indent, Text.isBlank c = true) →
      (u.entryBody.getLast?.map Text.trimStart = some ("return output;" : Text) ↔
        u.returnsOutput = true)) ∧
    ((readSymbols listing).result = .ok env.symbols →
      (decompile listing env.config).result = .ok ⟨u.render, u.stage⟩) := by
  intro u
  obtain ⟨d, found, finished, through, context⟩ := decodeBody_completed decoded
  have run := completes_turns env d finished
  rw [instructions, through] at ordered
  have leaving : returnText env (turns env d).final.context = u.leaving := by
    rw [← context]
    exact u.returnText_eq
  have leaves (instruction : Instruction) (s : Statement)
      (added : AddedBy env listing instruction s) (returns : instruction.isReturn = true) :
      s ∈ u.context.statements ∧ LeavesBy u.leaving s := by
    obtain ⟨e, among, adds⟩ := added
    rw [through] at among
    have fits := run.leavesBy ordered among adds returns
    rw [leaving] at fits
    refine ⟨?_, fits⟩
    rw [show u.context = _ from context]
    exact run.mem_of_addsAt among adds
  have returned (s : Statement) (inside : s ∈ u.context.statements) (returns : IsReturn s.body) :
      s.body = u.leaving ∧
        ∃ instruction, AddedBy env listing instruction s ∧ instruction.isReturn = true := by
    rw [show u.context = _ from context] at inside
    rcases run.exists_addsAt inside with before | ⟨e, among, instruction, adds⟩
    · have empty : d.context.statements = [] :=
        congrArg Outline.statements (Reached.start_outline found)
      rw [empty] at before
      cases before
    · have added : AddedBy env listing instruction s := ⟨e, by rwa [through], adds⟩
      have isReturn := adds.fits.returns returns
      exact ⟨body_of_leavesBy (leaves instruction s added isReturn).2 returns, instruction, added,
        isReturn⟩
  refine ⟨leaves, returned, ?_, fun blank => ?_, fun read => ?_⟩
  · rw [← u.entryPoint_eq]
    exact u.render_entryPoint
  · exact u.entryBody_last blank fun s inside returns => (returned s inside returns).1
  · simp only [decompile, read]
    rw [decoded]

/-- A geometry shader that has an output but writes it to a stream, with a return inside a block and
one under a condition, and a pixel shader that returns its output in the same places. -/
theorem returns_agree_stream :
    let env : Environment :=
      { symbols := { registers := { outputs := { fields := ["float4 o0 : SV_Position;"] } } } }
    let body : Text := "if_nz r0.x\nret\nendif\nretc_z r0.y\nret"
    let stream : Text := "gs_5_0\ndcl_outputTopology trianglestrip\n" ++ body
    let pixel : Text := "ps_5_0\ndcl_output o0.xyzw\n" ++ body
    let source (listing : Text) : ShaderSource :=
      ⟨env.symbols, (decodeBody env listing).final.context, env.config⟩
    (∀ listing ∈ [stream, pixel], DeclarationsFirst (instructions env listing) ∧
      (decodeBody env listing).outcome = .ok () ∧
      (∀ s ∈ (source listing).context.statements, IsReturn s.body →
        s.body = (source listing).leaving) ∧
      ((source listing).entryBody.getLast?.map Text.trimStart = some ("return output;" : Text) ↔
        (source listing).returnsOutput = true)) ∧
    (source stream).returnsOutput = false ∧
      (source stream).context.statements.map Statement.body =
        ["if (r0.x != 0)", "\x7b", "return;", "\x7d", "if (r0.y == 0) return;"] ∧
    (source pixel).returnsOutput = true ∧
      (source pixel).context.statements.map Statement.body =
        ["if (r0.x != 0)", "\x7b", "return output;", "\x7d", "if (r0.y == 0) return output;"] := by
  intro env body stream pixel source
  have ordered : ∀ listing ∈ [stream, pixel], DeclarationsFirst (instructions env listing) := by
    decide +kernel
  have succeeds : ∀ listing ∈ [stream, pixel], (decodeBody env listing).outcome.isOk = true := by
    decide +kernel
  refine ⟨fun listing among => ?_, by decide +kernel⟩
  have decoded := eq_ok_of_isOk _ (succeeds listing among)
  obtain ⟨_, returned, _, last, _⟩ := returns_agree env listing (ordered listing among) decoded
  exact ⟨ordered listing among, decoded, fun s inside returns => (returned s inside returns).1,
    last (List.all_eq_true.mp rfl)⟩

end Decoding
end ShaderLift
