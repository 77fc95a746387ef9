import ShaderLift.Proofs.Decoding.Dispatch
import ShaderLift.Proofs.Faults.Cause
import ShaderLift.Proofs.Token.Listing

namespace ShaderLift

namespace Decoding

variable {line : Option Int}

/-- The parenthesis behind a literal mark lies between two tokens of the line. -/
theorem IsOperand.onLine {tokens following : List Token} {text : Text}
    (operand : IsOperand line tokens following text) (ordered : InLineOrder tokens) :
    OnLine line tokens := by
  cases operand with
  | joined bare here joins => exact .cons here joins.onLine
  | @literal mark opening closing values following marked opens plain closes filled here aligned =>
    have close : line = some closing.line := aligned closing (by simp)
    obtain ⟨fromMark, rest⟩ := List.pairwise_cons.mp ordered
    obtain ⟨fromOpening, _⟩ := List.pairwise_cons.mp rest
    have low := fromMark opening (List.mem_cons_self ..)
    have high := fromOpening closing (by simp)
    rw [here, Option.some.injEq] at close
    refine .cons here (.cons ?_ aligned)
    rw [here, Option.some.injEq]
    omega

theorem OperandRun.onLine {start after : List Token} {operands : List (List Token)}
    {texts : List Text} (run : OperandRun line start operands texts after)
    (ordered : InLineOrder start) :
    OnLine line operands.flatten := by
  induction run with
  | nil => exact .nil line
  | cons first others ih =>
    obtain ⟨front, back, _⟩ := List.pairwise_append.mp ordered
    exact (first.onLine front).append (ih back)

end Decoding

namespace Instruction

/-- What holds of every entry of the instruction set, and of an open one with anything behind it,
holds of every known name. -/
theorem lookup?_induction {motive : Text → Opcode → Prop}
    (extended : ∀ entry ∈ extendedOpcodes, motive entry.1 entry.2)
    (core : ∀ entry ∈ coreOpcodes, motive entry.1 entry.2)
    (opened : ∀ entry ∈ openOpcodes, ∀ rest, motive (entry.1 ++ rest) entry.2)
    {name : Text} {opcode : Opcode} (found : lookup? name = some opcode) : motive name opcode := by
  rcases Option.or_eq_some_iff.mp found with inExtended | ⟨_, found⟩
  · exact extended _ (Table.mem_of_get? inExtended)
  · rcases Option.or_eq_some_iff.mp found with inCore | ⟨_, found⟩
    · exact core _ (Table.mem_of_get? inCore)
    · obtain ⟨entry, inside, rfl⟩ := Option.map_eq_some_iff.mp found
      have starts : Text.startsWith entry.1 name = true := by
        simpa using List.find?_some inside
      obtain ⟨rest, rfl⟩ := (Text.startsWith_iff _ _).mp starts
      exact opened entry (List.mem_of_find?_eq_some inside) rest

/-- Every entry of the instruction set gives the number of operands that its family reads. -/
theorem operands_lookup? (name : Text) (opcode : Opcode) (found : lookup? name = some opcode) :
    opcode.operands = opcode.arity := by
  have opened : ∀ entry ∈ openOpcodes, entry.2.operands = entry.2.arity := by decide
  exact lookup?_induction (motive := fun _ opcode => opcode.operands = opcode.arity)
    (by decide) (by decide) (fun entry inside _ => opened entry inside) found

/-- An instruction has the opcode that its mnemonic stands for. -/
def IsListed (instruction : Instruction) : Prop :=
  lookup? (normalizeMnemonic instruction.mnemonic).1 = some instruction.opcode

theorem isListed_classify? {mnemonic : Text} {instruction : Instruction}
    (classified : classify? mnemonic = some instruction) : instruction.IsListed := by
  obtain ⟨opcode, found, rfl⟩ := Option.map_eq_some_iff.mp classified
  exact found

end Instruction

namespace Decoding

variable {line : Option Int} {instruction first : Instruction} {rest after : List Token}
  {env : Environment} {d : Decoder} {mnemonic : Token}

theorem applyStrides_keeps (values : List Text) (instruction applied : Instruction)
    (takes : applyStrides instruction values = .ok applied) :
    applied.mnemonic = instruction.mnemonic ∧ applied.opcode = instruction.opcode := by
  induction values generalizing instruction with
  | nil =>
    cases takes
    exact ⟨rfl, rfl⟩
  | cons value rest ih =>
    unfold applyStrides at takes
    split at takes
    · exact ih _ takes
    · rename_i digits _
      cases read : Fault.readInteger digits with
      | error fault =>
        rw [read] at takes
        cases takes
      | ok stride =>
        rw [read] at takes
        exact ih { instruction with stride } takes

theorem applyGroup_keeps (values : List Text) (instruction applied : Instruction)
    (takes : applyGroup instruction values = .ok applied) :
    applied.mnemonic = instruction.mnemonic ∧ applied.opcode = instruction.opcode := by
  unfold applyGroup at takes
  split at takes
  · cases takes
    exact ⟨rfl, rfl⟩
  · split at takes
    · cases read : (List.mapM Fault.readInteger _) with
      | error fault =>
        rw [read] at takes
        cases takes
      | ok offsets =>
        rw [read] at takes
        cases takes
        exact ⟨rfl, rfl⟩
    · have same := applyStrides_keeps _ _ _ takes
      split at same
      · exact same
      · exact same

/-- The modifiers behind a mnemonic lead to another entry of the instruction set at most. -/
theorem Modifiers.isListed {result : Instruction} {tokens : List Token}
    (modifiers : Modifiers line instruction tokens rest result) (listed : instruction.IsListed) :
    result.IsListed := by
  induction modifiers with
  | done => exact listed
  | group opens plain closes here aligned takes later ih =>
    apply ih
    obtain ⟨mnemonic, opcode⟩ := applyGroup_keeps _ _ _ takes
    rw [Instruction.IsListed, mnemonic, opcode]
    exact listed
  | @suffix instruction result token more rest marked here later ih =>
    apply ih
    unfold applySuffix
    split
    · exact listed
    · rename_i suffixed classified
      have other : suffixed.IsListed := Instruction.isListed_classify? classified
      exact other

/-- The modifiers behind a mnemonic as they are written. The suffixes lead to the instruction, and
what the groups say is left out. -/
abbrev WrittenModifiers := ModifierRun fun instruction _ applied => applied = instruction

theorem applySuffix_keeps {instruction actual : Instruction} (text : Text)
    (same : actual.mnemonic = instruction.mnemonic ∧ actual.opcode = instruction.opcode) :
    (applySuffix actual text).mnemonic = (applySuffix instruction text).mnemonic ∧
      (applySuffix actual text).opcode = (applySuffix instruction text).opcode := by
  unfold applySuffix
  rw [same.1]
  split
  · exact same
  · exact ⟨rfl, rfl⟩

/-- Modifiers that are written are read, unless a value of a group cannot be. The instruction
differs from the one that the suffixes lead to in what the groups say only. -/
theorem WrittenModifiers.read {named : Instruction} {tokens : List Token}
    (written : WrittenModifiers line instruction tokens after named) (env : Environment)
    (actual : Instruction)
    (same : actual.mnemonic = instruction.mnemonic ∧ actual.opcode = instruction.opcode)
    (bound : Nat) (d : Decoder) (aboard : d.line = line) (ahead : d.cursor.rest = tokens ++ after)
    (enough : tokens.length ≤ bound) :
    (∃ fault cursor, MisreadModifier tokens fault ∧
      runOn (readModifiersWithin bound actual) env d = (.error fault, { d with cursor })) ∨
    ∃ result, Modifiers line actual tokens after result ∧ result.opcode = named.opcode := by
  induction written generalizing actual bound d with
  | done stops => exact .inr ⟨actual, .done stops, same.2⟩
  | @group instruction applied named opening closing values more rest opens plain closes here
      aligned unread later ih =>
    subst aboard unread
    obtain ⟨bound, rfl⟩ := Nat.exists_eq_succ_of_ne_zero (show bound ≠ 0 by rintro rfl; cases enough)
    have inside : d.cursor.rest = opening :: (values ++ closing :: (more ++ rest)) := by
      simpa using ahead
    have run := readModifiers_opening bound actual env d opening _ inside opens here
    rw [groupFrom_closed d.line (opening :: d.cursor.passed) [] values (more ++ rest) closing closes
      plain aligned, List.nil_append] at run
    dsimp only at run
    cases takes : applyGroup actual (values.map Token.text) with
    | error fault =>
      have given : ∀ value ∈ values.map Token.text, ∃ token ∈ values, token.text = value :=
        fun value member => List.mem_map.mp member
      have misread := FailsFor.applyGroup actual given fault takes
      rw [takes] at run
      exact .inl ⟨fault, _, misread.mono fun token member => by simp [member], run⟩
    | ok applied =>
      rw [takes] at run
      dsimp only at run
      rw [past_group] at run
      have kept := applyGroup_keeps _ _ _ takes
      rcases ih applied ⟨kept.1.trans same.1, kept.2.trans same.2⟩ bound
          (d.past (opening :: (values ++ [closing])) (more ++ rest) d.log) rfl rfl
          (by simp only [List.length_cons, List.length_append] at enough; omega) with
        ⟨fault, cursor, misread, failed⟩ | ⟨result, modifiers, opcode⟩
      · exact .inl ⟨fault, cursor, misread.mono fun token member => by simp [member],
          run.trans failed⟩
      · exact .inr ⟨result, .group opens plain closes here aligned takes modifiers, opcode⟩
  | @suffix instruction named token more rest marked here later ih =>
    subst aboard
    obtain ⟨bound, rfl⟩ := Nat.exists_eq_succ_of_ne_zero (show bound ≠ 0 by rintro rfl; cases enough)
    have run := readModifiers_suffix bound actual env d token (more ++ rest) ahead marked here
    rcases ih (applySuffix actual token.text) (applySuffix_keeps token.text same) bound
        (d.past [token] (more ++ rest) d.log) rfl rfl (Nat.le_of_succ_le_succ enough) with
      ⟨fault, cursor, misread, failed⟩ | ⟨result, modifiers, opcode⟩
    · exact .inl ⟨fault, cursor, misread.mono fun token member => by simp [member],
        run.trans failed⟩
    · exact .inr ⟨result, .suffix marked here modifiers, opcode⟩

/-- Plain registers are operands of one token each. -/
theorem OperandRun.plain {start : List Token} {operands : List (List Token)} {texts : List Text}
    (run : OperandRun line start operands texts after) (registers following : List Token)
    (split : start = registers ++ following)
    (plain : ∀ token ∈ registers, Operand.PlainRegister token.text)
    (ends : ∀ token ∈ following.head?, line ≠ some token.line) :
    operands.length ≤ registers.length ∧ ∀ text ∈ texts, ∃ token ∈ registers, token.text = text := by
  induction run generalizing registers with
  | nil => exact ⟨Nat.zero_le _, by simp⟩
  | @cons operand rest after operands text texts first others ih =>
    cases registers with
    | nil =>
      rw [List.nil_append] at split
      subst split
      cases first with
      | literal marked opens unclosed closes filled here aligned => exact absurd here (ends _ rfl)
      | joined bare here joins => exact absurd here (ends _ rfl)
    | cons register registers =>
      have here := plain register (List.mem_cons_self ..)
      cases first with
      | @literal mark opening closing values following' marked opens unclosed closes filled aboard
          aligned =>
        have same : mark = register := (List.cons.inj split).1
        rw [same] at marked
        exact absurd marked (not_or.mpr here.unmarked)
      | @joined start more following' text bare aboard joins =>
        obtain ⟨rfl, behind⟩ := List.cons.inj split
        cases joins with
        | done closed =>
          obtain ⟨less, each⟩ := ih registers behind
            fun token inside => plain token (List.mem_cons_of_mem _ inside)
          refine ⟨Nat.succ_le_succ less, ?_⟩
          intro text inside
          rcases List.mem_cons.mp inside with rfl | inside
          · exact ⟨start, List.mem_cons_self, rfl⟩
          · obtain ⟨token, among, same⟩ := each text inside
            exact ⟨token, List.mem_cons_of_mem _ among, same⟩
        | more opened =>
          rw [here.bracketsClosed] at opened
          cases opened

/-- A completed turn has read the operands behind the modifiers, and nothing of another line. -/
theorem operands_of_completed {reached : Decoder} (ahead : d.cursor.rest = mnemonic :: rest)
    (ordered : InLineOrder (mnemonic :: rest))
    (classified : Instruction.classify? mnemonic.text = some first)
    (completed : runOn turn env d = (.ok (), reached)) :
    ∃ modifiers behind instruction, rest = modifiers ++ behind ∧
      Modifiers (some mnemonic.line) first modifiers behind instruction ∧
      (instruction.opcode.family.isIrregular = false →
        ∃ operands texts after, OperandRun (some mnemonic.line) behind operands texts after ∧
          operands.length = instruction.opcode.arity ∧
          reached.cursor =
            ⟨(mnemonic :: modifiers ++ operands.flatten).reverse ++ d.cursor.passed, after⟩ ∧
          OnLine (some mnemonic.line) (mnemonic :: modifiers ++ operands.flatten)) := by
  have listed := Instruction.isListed_classify? classified
  rcases turn_modifiers env d mnemonic rest first ahead classified with
    ⟨fault, cursor, failed⟩ | ⟨modifiers, behind, instruction, rfl, modified⟩
  · rw [failed] at completed
    cases completed
  · refine ⟨modifiers, behind, instruction, rfl, modified, fun regular => ?_⟩
    have run := runOn_turn env d mnemonic modifiers behind first instruction ahead classified
      modified
    have reads : EndsReading (.ahead env _) _ _ _ _
      (atOperands d mnemonic modifiers behind instruction) _ := dispatch_reads instruction regular _
    rw [← run, completed] at reads
    cases reads with
    | past log operandRun counted decoded =>
      rw [Instruction.operands_lookup? _ _ (modified.isListed listed)] at counted
      refine ⟨_, _, _, operandRun, counted, ?_, ?_⟩
      · rw [decoded.1]
        simp [atOperands, Decoder.past]
      · have later := (List.pairwise_append.mp (List.pairwise_cons.mp ordered).2).2.1
        exact .cons rfl (modified.onLine.append (operandRun.onLine later))

/-- A turn fails on a line with too few registers, and leaves the context as it is. -/
theorem fault_of_short {modifiers registers : List Token}
    (ahead : d.cursor.rest = mnemonic :: (modifiers ++ (registers ++ after)))
    (classified : Instruction.classify? mnemonic.text = some first)
    (modified : Modifiers (some mnemonic.line) first modifiers (registers ++ after) instruction)
    (regular : instruction.opcode.family.isIrregular = false)
    (plain : ∀ token ∈ registers, Operand.PlainRegister token.text)
    (ends : ∀ token ∈ after.head?, token.line ≠ mnemonic.line)
    (few : registers.length < instruction.opcode.arity) :
    ∃ fault reached, runOn turn env d = (.error fault, reached) ∧ reached.context = d.context ∧
      (fault.isDecode = true ∨ ∃ token ∈ registers, Operand.LongNumber token.text fault) := by
  have listed := Instruction.isListed_classify? classified
  have run := runOn_turn env d mnemonic modifiers _ first instruction ahead classified modified
  have reads : EndsReading (.ahead env _) _ _ _ _
    (atOperands d mnemonic modifiers (registers ++ after) instruction) _ :=
    dispatch_reads instruction regular _
  have alone : ∀ token ∈ after.head?, some mnemonic.line ≠ some token.line :=
    fun token inside same => ends token inside (Option.some.inj same).symm
  have short {operands : List (List Token)} {texts : List Text} {after' : List Token}
      (operandRun : OperandRun (some mnemonic.line) (registers ++ after) operands texts after') :=
    operandRun.plain registers after rfl plain alone
  rw [run]
  generalize runOn (dispatch instruction) env _ = result at reads ⊢
  cases reads with
  | @broken fault cursor log reason =>
    refine ⟨fault, _, rfl, rfl, ?_⟩
    rcases reason with decodes | ⟨text, ⟨_, _, _, operandRun, inside⟩, unresolved⟩
    · exact .inl decodes
    · obtain ⟨token, among, rfl⟩ := (short operandRun).2 text inside
      exact .inr ⟨token, among, resolved_plain (plain token among) unresolved⟩
  | past log operandRun counted =>
    rw [Instruction.operands_lookup? _ _ (modified.isListed listed)] at counted
    have least := (short operandRun).1
    omega

/-- A completed turn reads a mnemonic, its modifiers and as many operands as the instruction set
says, all from the line of the mnemonic. A line of plain registers that are too few makes the turn
fail, with nothing written. The fault is a decoding one, unless a number cannot be read: an offset
or a stride of a modifier, or a number of a register with too many digits. -/
theorem turn_arity (env : Environment) (listing : Text) (d : Decoder) (mnemonic : Token)
    (rest : List Token) (first : Instruction) (stream : d.cursor.tokens = tokenize listing)
    (ahead : d.cursor.rest = mnemonic :: rest)
    (classified : Instruction.classify? mnemonic.text = some first) :
    (∀ reached, runOn turn env d = (.ok (), reached) →
      ∃ modifiers behind instruction, rest = modifiers ++ behind ∧
        Modifiers (some mnemonic.line) first modifiers behind instruction ∧
        (instruction.opcode.family.isIrregular = false →
          ∃ operands texts after, OperandRun (some mnemonic.line) behind operands texts after ∧
            operands.length = instruction.opcode.arity ∧
            reached.cursor =
              ⟨(mnemonic :: modifiers ++ operands.flatten).reverse ++ d.cursor.passed, after⟩ ∧
            OnLine (some mnemonic.line) (mnemonic :: modifiers ++ operands.flatten))) ∧
    (∀ modifiers registers after named,
      rest = modifiers ++ (registers ++ after) →
      WrittenModifiers (some mnemonic.line) first modifiers (registers ++ after) named →
      named.opcode.family.isIrregular = false →
      (∀ token ∈ registers, token.line = mnemonic.line ∧ Operand.PlainRegister token.text) →
      (∀ token ∈ after.head?, token.line ≠ mnemonic.line) →
      registers.length < named.opcode.arity →
      ∃ fault reached, runOn turn env d = (.error fault, reached) ∧ reached.context = d.context ∧
        (fault.isDecode = true ∨ MisreadModifier modifiers fault ∨
          ∃ token ∈ registers, Operand.LongNumber token.text fault)) := by
  have ordered : InLineOrder (mnemonic :: rest) := by
    have all := tokenize_inLineOrder listing
    rw [← stream, Cursor.tokens, ahead] at all
    exact (List.pairwise_append.mp all).2.1
  constructor
  · intro reached completed
    exact operands_of_completed ahead ordered classified completed
  · intro modifiers registers after named split written regular plain ends few
    subst split
    rcases written.read env first ⟨rfl, rfl⟩ _ (atMnemonic d mnemonic _) rfl rfl
        (List.length_append ▸ Nat.le_add_right ..) with
      ⟨fault, cursor, misread, failed⟩ | ⟨instruction, modified, same⟩
    · exact ⟨fault, _, runOn_turn_of_error ahead classified failed, rfl, .inr (.inl misread)⟩
    · rw [← same] at regular few
      obtain ⟨fault, reached, failed, kept, cause⟩ := fault_of_short ahead classified modified
        regular (fun token inside => (plain token inside).2) ends few
      exact ⟨fault, reached, failed, kept, cause.imp_right .inr⟩

/-- An addition with two of its three operands, and a move with both of its own. -/
theorem turn_arity_add_move :
    let listing : Text := "ps_5_0\nadd r0.x, cb0[1].y\nmov r0.x, r1.x"
    let add : Decoder := { cursor := ⟨(tokenize listing).take 1, (tokenize listing).drop 1⟩ }
    let move : Decoder :=
      { cursor := ⟨((tokenize listing).take 4).reverse, (tokenize listing).drop 4⟩ }
    (∃ fault reached, runOn turn {} add = (.error fault, reached) ∧
      reached.context = add.context ∧ fault.isDecode = true) ∧
    ∃ reached operands texts after, runOn turn {} move = (.ok (), reached) ∧
      OperandRun (some 3) ((tokenize listing).drop 5) operands texts after ∧
      operands.length = 2 := by
  intro listing add move
  refine ⟨?_, ?_⟩
  · have written : WrittenModifiers (some 2)
        ⟨"add", ⟨.binary, 3, .float, "+", 0⟩, false, [], [], 0⟩ []
        ([⟨"r0.x", 2⟩, ⟨"cb0[1].y", 2⟩] ++ (tokenize listing).drop 4) _ := .done (by decide +kernel)
    have plain : ∀ token ∈ [(⟨"r0.x", 2⟩ : Token), ⟨"cb0[1].y", 2⟩],
        token.line = 2 ∧ Operand.PlainRegister token.text := by
      intro token inside
      simp only [List.mem_cons, List.not_mem_nil, or_false] at inside
      rcases inside with rfl | rfl
      · exact ⟨rfl, .of 'r' ['0'] [] [.x] rfl (List.all_eq_true.mp rfl) (by simp) (by decide)⟩
      · have numeric : ∀ index ∈ [['1']], index ≠ [] ∧ ∀ c ∈ index, c.isDigit = true := by
          intro index inside
          rw [List.mem_singleton.mp inside]
          exact ⟨List.cons_ne_nil _ _, List.all_eq_true.mp rfl⟩
        exact ⟨rfl, .of 'c' ['b', '0'] [['1']] [.y] rfl (List.all_eq_true.mp rfl) numeric
          (by decide)⟩
    obtain ⟨fault, reached, failed, kept, decodes | misread | ⟨token, among, long⟩⟩ :=
      (turn_arity {} listing add ⟨"add", 2⟩ _ _ (by decide +kernel) rfl (by decide +kernel)).2
        [] [⟨"r0.x", 2⟩, ⟨"cb0[1].y", 2⟩] _ _ (by decide +kernel) written rfl plain
        (by decide +kernel) (by decide)
    · exact ⟨fault, reached, failed, kept, decodes⟩
    · cases misread with
      | offset among => cases among
      | stride among => cases among
    · -- no number in a register of this line has more than eight digits
      have brief : ∀ token ∈ [(⟨"r0.x", 2⟩ : Token), ⟨"cb0[1].y", 2⟩], token.text.length ≤ 8 := by
        decide
      cases long with
      | of within numeric long =>
        have most := within.length_le.trans (brief token among)
        exact absurd long (Nat.not_lt.mpr (most.trans (by decide)))
  · have completed := runOn_of_isOk turn {} move (by decide +kernel)
    generalize (runOn turn {} move).2 = reached at completed
    obtain ⟨modifiers, behind, instruction, split, modified, read⟩ :=
      (turn_arity {} listing move ⟨"mov", 3⟩ [⟨"r0.x", 3⟩, ⟨"r1.x", 3⟩]
        ⟨"mov", ⟨.move, 2, .float, [], 0⟩, false, [], [], 0⟩ (by decide +kernel) (by decide +kernel)
        (by decide +kernel)).1 reached completed
    cases modified with
    | done stops =>
      obtain ⟨operands, texts, after, run, counted, _⟩ := read rfl
      have same : (tokenize listing).drop 5 = behind := by
        rw [← show _ = behind from split]
        decide +kernel
      rw [same]
      exact ⟨reached, operands, texts, after, completed, run, counted⟩
    | suffix marked =>
      rw [← (List.cons.inj split).1] at marked
      cases marked
    | group opens =>
      rw [← (List.cons.inj split).1] at opens
      cases opens

/-- The addition lacks an operand, but its stride is no integer, which no decoding fault reports. -/
theorem misread_short_line :
    let listing : Text := "ps_5_0\nadd(stride=abc) r0.x, r1.x"
    let add : Decoder := { cursor := ⟨(tokenize listing).take 1, (tokenize listing).drop 1⟩ }
    (runOn turn {} add).1 = .error (.badInteger "abc" .malformed) ∧
      (Fault.badInteger "abc" .malformed).isDecode = false := by
  intro listing add
  exact ⟨by decide +kernel, rfl⟩

end Decoding
end ShaderLift
