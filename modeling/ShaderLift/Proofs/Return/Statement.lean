import ShaderLift.Proofs.Decoding.Arity
import ShaderLift.Proofs.Decoding.Accounts
import ShaderLift.Proofs.Nesting.Run
import ShaderLift.Proofs.Strictness.Run

namespace ShaderLift

variable {family : Family}

/-- The families of the declarations. -/
def Family.isDeclaration : Family → Bool
  | declareTemps | declareIndexable | declareConstants | declareThreadGroup | declareSharedRaw
  | declareSharedStructured | declareInput | declareVertexCount | declarePrimitive
  | declareTopology | declareOther => true
  | _ => false

namespace Instruction

variable {instruction : Instruction}

/-- Whether an instruction is a declaration, which its name shows. -/
def isDeclaration (instruction : Instruction) : Bool :=
  Text.startsWith "dcl_" (normalizeMnemonic instruction.mnemonic).1

/-- Whether an instruction leaves the entry point, at once or under a condition. -/
def isReturn (instruction : Instruction) : Bool :=
  instruction.opcode.family = .leave || instruction.opcode.family = .leaveConditional

/-- Among the names of the instruction set, those of declarations have the same beginning. -/
theorem startsWith_lookup? {name : Text} {opcode : Opcode} (found : lookup? name = some opcode) :
    Text.startsWith "dcl_" name = opcode.family.isDeclaration := by
  refine lookup?_induction (motive := fun name opcode =>
    Text.startsWith "dcl_" name = opcode.family.isDeclaration) ?_ ?_ ?_ found
  · decide +kernel
  · decide +kernel
  · intro entry listed rest
    rcases List.mem_cons.mp listed with rfl | listed
    · rfl
    · rw [List.mem_singleton.mp listed]
      rfl

theorem IsListed.isDeclaration_eq (listed : instruction.IsListed) :
    instruction.isDeclaration = instruction.opcode.family.isDeclaration :=
  startsWith_lookup? listed

theorem IsListed.not_declaration (listed : instruction.IsListed)
    (returns : instruction.isReturn = true) : instruction.isDeclaration = false := by
  rw [listed.isDeclaration_eq]
  simp only [isReturn, Bool.or_eq_true, decide_eq_true_eq] at returns
  rcases returns with leaving | leaving
  · rw [leaving]
    rfl
  · rw [leaving]
    rfl

end Instruction

namespace Outline

/-- Statements have been added, and none of them leaves a label. -/
def Stays (o reached : Outline) : Prop :=
  ∃ added, reached.statements = o.statements ++ added ∧
    ∀ s ∈ added, LineKind.ofLine s.body ≠ .exit

namespace Stays

variable {o middle reached : Outline}

theorem same (unchanged : reached.statements = o.statements) : o.Stays reached :=
  ⟨[], by simp [unchanged], by simp⟩

theorem trans (first : o.Stays middle) (second : middle.Stays reached) : o.Stays reached := by
  obtain ⟨front, extended, stays⟩ := first
  obtain ⟨back, extended', stays'⟩ := second
  refine ⟨front ++ back, by rw [extended', extended, List.append_assoc], ?_⟩
  intro s inside
  rcases List.mem_append.mp inside with early | late
  · exact stays s early
  · exact stays' s late

theorem add (o : Outline) (text : Text) (other : LineKind.ofLine text ≠ .exit) :
    o.Stays (o.add text) := by
  refine ⟨[_], rfl, fun s inside => ?_⟩
  rw [List.mem_singleton.mp inside, Statement.body_ofText]
  exact other

theorem ofAppends (appended : o.Appends reached) : o.Stays reached := by
  obtain ⟨_, _, added, extended, plain⟩ := appended
  refine ⟨added, extended, fun s inside exits => ?_⟩
  have here : LineKind.ofLine s.body = .plain := (plain s inside).1
  rw [exits] at here
  cases here

end Stays
end Outline

/-- What does not leave a label adds no line that does. -/
theorem Marker.Effect.stays {strict : Bool} {marker : Marker} {o reached : Outline}
    (effect : marker.Effect strict o reached) (other : marker ≠ .exit)
    (inner : marker ≠ .innerExit) : o.Stays reached := by
  cases marker with
  | none => exact .ofAppends effect
  | opening block =>
    obtain ⟨head, plain, rfl⟩ := effect
    have first : o.Stays (o.add head) := .ofAppends (o.appends_add head plain)
    exact first.trans ((Outline.Stays.add _ "\x7b" (by decide)).trans (.same rfl))
  | alternative =>
    by_cases branch : o.blocks.head? = some .branch
    · rw [effect.1 branch]
      have closed : o.Stays ((o.shift (-1)).add "\x7d") :=
        .trans (.same rfl) (.add (o.shift (-1)) _ (by decide))
      have parted := closed.trans (.add _ "else" (by decide))
      exact (parted.trans (.add _ "\x7b" (by decide))).trans (.same rfl)
    · rw [(effect.2 branch).2]
      exact .same rfl
  | closing block =>
    rw [effect.2]
    refine .trans (.same ?_) (.add _ "\x7d" (by decide))
    exact Marker.beforeClosing_statements block o
  | label =>
    obtain ⟨text, labels, rfl⟩ := effect
    have left : o.Stays o.leaveLabel := .same o.leaveLabel_statements
    refine left.trans (.trans (.add _ text ?_) (.same rfl))
    rw [labels]
    decide
  | exit => exact absurd rfl other
  | innerExit => exact absurd rfl inner
  | scope =>
    obtain ⟨within, appended, rfl⟩ := effect
    have opened : o.Stays ((o.add "\x7b").shift 1) := .trans (.add o _ (by decide)) (.same rfl)
    have filled := opened.trans (.ofAppends appended)
    exact filled.trans (.trans (.same rfl) (.add (within.shift (-1)) _ (by decide)))

theorem Family.eq_of_marker_exit (exits : family.marker = .exit) :
    family = .breakOut := by
  unfold marker at exits
  split at exits <;> cases exits
  rfl

theorem Family.eq_of_marker_innerExit (exits : family.marker = .innerExit) :
    family = .leave := by
  unfold marker at exits
  split at exits <;> cases exits
  rfl

namespace Decoding

variable {d reached middle : Decoder} {instruction : Instruction} {text : Text}

variable {α : Type} {env : Environment}

theorem readInstruction_isListed
    (read : runOn readInstruction env d = (.ok (some instruction), middle)) :
    instruction.IsListed := by
  obtain ⟨mnemonic, modifiers, after, first, _, classified, modified, _⟩ :=
    readInstruction_some read
  exact modified.isListed (Instruction.isListed_classify? classified)

/-- Only a declaration changes the topology. -/
theorem turn_target {instruction? : Option Instruction}
    (read : runOn readInstruction env d = (.ok instruction?, middle))
    (completed : runOn turn env d = (.ok (), reached))
    (later : ∀ instruction ∈ instruction?, instruction.isDeclaration = false) :
    reached.context.target = d.context.target := by
  have whole : runOn turn env d = _ := runOn_bind_of_ok _ _ _ _ _ _ read
  rw [completed] at whole
  rw [← readInstruction_context read]
  cases instruction? with
  | none =>
    cases whole
    rfl
  | some instruction =>
    have other := later instruction rfl
    rw [(readInstruction_isListed read).isDeclaration_eq] at other
    have settled : True → instruction.opcode.family ≠ .declareTopology := by
      intro _ topology
      rw [topology] at other
      cases other
    have kept : Accounts Context.target env middle.cursor.tokens (dispatch instruction) _ :=
      .dispatch (fun _ _ _ _ _ => rfl) (fun _ steady _ => steady trivial) settled False.elim
    have same := (kept middle rfl).keeps
    rwa [← whole] at same

/-- The statement that leaves the entry point, as things stand in a context. -/
def returnText (env : Environment) (c : Context) : Text :=
  if c.stage = some .compute || c.hasOutputStream ||
      env.symbols.registers.outputs.fields.isEmpty then "return;"
  else "return output;"

theorem returnStatement_eq (env : Environment) (d : Decoder) :
    runOn returnStatement env d = (.ok (returnText env d.context), d) := by
  simp only [returnStatement, runOn_bind, runOn_get, runOn_registers, returnText]
  split
  · rfl
  · rfl

theorem returnText_of_target {c c' : Context} (same : c'.target = c.target) :
    returnText env c' = returnText env c := by
  obtain ⟨stage, topology⟩ := Prod.mk.inj same
  rw [returnText, returnText, Context.hasOutputStream, Context.hasOutputStream, stage, topology]

/-- A statement that leaves the entry point with a given text, at once or under a condition. -/
def LeavesBy (text : Text) (s : Statement) : Prop :=
  s.body = text ∨ ∃ test, s.body = "if (" ++ test ++ ") " ++ text

theorem exit_statements
    (completed : runOn (emit text >>= fun _ => leaveLabel) env d = (.ok (), reached)) :
    reached.context.statements =
      d.context.statements ++ [.ofText d.context.depth.toNat text] := by
  have writes : Writes env (emit text >>= fun _ => leaveLabel) _ :=
    (emit_writes text).chain fun _ => leaveLabel_writes
  have changed := (writes d).2 () (by rw [completed])
  rw [completed] at changed
  have statements : reached.outline.statements = (d.outline.add text).statements := by
    rw [show reached.outline = (d.outline.add text).leaveLabel from changed]
    exact Outline.leaveLabel_statements _
  exact statements

theorem leave_statements (completed : runOn leave env d = (.ok (), reached)) :
    ∃ added, reached.context.statements = d.context.statements ++ added ∧
      ∀ s ∈ added, s.body = returnText env d.context := by
  have start : runOn leave env d = runOn (if 0 < d.context.depth then
      returnStatement >>= fun text => emit text >>= fun _ => leaveLabel else pure ()) env d := rfl
  rw [start] at completed
  split at completed
  · rw [runOn_bind_of_ok _ _ _ _ _ _ (returnStatement_eq env d)] at completed
    refine ⟨_, exit_statements completed, fun s inside => ?_⟩
    rw [List.mem_singleton.mp inside, Statement.body_ofText]
  · cases completed
    exact ⟨[], (List.append_nil _).symm, by simp⟩

theorem leaveConditional_statements {opcode : Opcode}
    (completed : runOn (conditional opcode returnStatement) env d = (.ok (), reached)) :
    ∃ added, reached.context.statements = d.context.statements ++ added ∧
      ∀ s ∈ added, ∃ test, s.body = "if (" ++ test ++ ") " ++ returnText env d.context := by
  have reads : Composed (.ahead env d) .reads 1 (condition opcode) := .condition opcode
  have ends := reads.readsThen rfl trivial d fun _ _ inside => inside
  rw [conditional, runOn_bind] at completed
  generalize runOn (condition opcode) env d = result at ends completed
  cases ends with
  | broken => cases completed
  | @past log _ _ _ outcome middle _ _ _ _ succeeds quiet =>
    obtain ⟨test, rfl⟩ := succeeds rfl
    obtain rfl := quiet nofun
    dsimp only at completed
    rw [runOn_bind_of_ok _ _ _ _ _ _ (returnStatement_eq env _)] at completed
    cases completed
    refine ⟨[_], rfl, fun s inside => ⟨test, ?_⟩⟩
    rw [List.mem_singleton.mp inside, Statement.body_ofText]
    rfl

/-- A line that is nothing but a return, apart from the blanks in front of it. -/
def IsReturn (text : Text) : Prop :=
  Text.trimStart text = "return;" ∨ Text.trimStart text = "return output;"

instance (text : Text) : Decidable (IsReturn text) := inferInstanceAs (Decidable (_ ∨ _))

theorem kind_of_isReturn (returns : IsReturn text) :
    LineKind.ofLine text = .exit := by
  rcases returns with leaves | leaves
  · rw [LineKind.ofLine, leaves]
    decide
  · rw [LineKind.ofLine, leaves]
    decide

/-- A statement under a condition is not a return alone. -/
theorem body_of_leavesBy {s : Statement} (leaves : LeavesBy text s) (returns : IsReturn s.body) :
    s.body = text := by
  rcases leaves with same | ⟨test, body⟩
  · exact same
  · have start : (Text.trimStart s.body).head? = some 'i' := by
      rw [body]
      rfl
    rcases returns with alone | alone
    · rw [alone] at start
      exact absurd start (by decide)
    · rw [alone] at start
      exact absurd start (by decide)

/-- How a statement fits the instruction that added it: returns leave the entry point as the context
asks for, and no other instruction does. -/
structure Fits (env : Environment) (c : Context) (instruction : Instruction) (s : Statement) :
    Prop where
  leaves : instruction.isReturn = true → LeavesBy (returnText env c) s
  returns : IsReturn s.body → instruction.isReturn = true

theorem dispatch_fits (completed : runOn (dispatch instruction) env d = (.ok (), reached)) :
    ∃ added, reached.context.statements = d.context.statements ++ added ∧
      ∀ s ∈ added, Fits env d.context instruction s := by
  have effect := dispatch_effect instruction d reached completed
  obtain ⟨mnemonic, ⟨family, arity, kind, symbol, width⟩, saturate, offsets, type, stride⟩ :=
    instruction
  by_cases leaving : family = .leave
  · subst leaving
    obtain ⟨added, extended, returned⟩ := leave_statements completed
    exact ⟨added, extended, fun s inside => ⟨fun _ => .inl (returned s inside), fun _ => rfl⟩⟩
  by_cases conditional : family = .leaveConditional
  · subst conditional
    obtain ⟨added, extended, returned⟩ := leaveConditional_statements completed
    exact ⟨added, extended, fun s inside => ⟨fun _ => .inr (returned s inside), fun _ => rfl⟩⟩
  have other (s : Statement) (stays : ¬ IsReturn s.body) :
      Fits env d.context ⟨mnemonic, ⟨family, arity, kind, symbol, width⟩, saturate, offsets, type,
        stride⟩ s := by
    refine ⟨fun returns => ?_, fun returns => absurd returns stays⟩
    simp [Instruction.isReturn, leaving, conditional] at returns
  by_cases breaking : family = .breakOut
  · subst breaking
    refine ⟨[_], exit_statements completed, fun s inside => other s ?_⟩
    rw [List.mem_singleton.mp inside, Statement.body_ofText]
    decide
  · obtain ⟨added, extended, stays⟩ := effect.stays
      (fun exits => breaking (Family.eq_of_marker_exit exits))
      (fun exits => leaving (Family.eq_of_marker_innerExit exits))
    exact ⟨added, extended, fun s inside =>
      other s fun returns => stays s inside (kind_of_isReturn returns)⟩

end Decoding
end ShaderLift
