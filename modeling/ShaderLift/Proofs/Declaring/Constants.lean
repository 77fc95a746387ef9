import ShaderLift.Proofs.Decoding.Turn
import ShaderLift.Proofs.Token.Listing

namespace ShaderLift.Decoding

open Token

variable {rows : List (List Text)} {tokens after : List Token} {row : List Text}

/-- A row between its braces. -/
def rowTexts (row : List Text) : List Text := "\x7b" :: (row ++ [("\x7d" : Text)])

/-- The tokens of a buffer up to its last row. -/
def openedTexts (rows : List (List Text)) : List Text :=
  "dcl_immediateConstantBuffer" :: "\x7b" :: rows.flatMap rowTexts

/-- The tokens of a buffer. -/
def constantsTexts (rows : List (List Text)) : List Text := openedTexts rows ++ [("\x7d" : Text)]

/-- No value of a row closes it. -/
def IsRow (row : List Text) : Prop := ∀ value ∈ row, value ≠ "\x7d"

theorem IsRow.of_prefix {front : List Text} (plain : IsRow row) (starts : front <+: row) :
    IsRow front :=
  fun value inside => plain value (starts.subset inside)

theorem flatMap_rowTexts (row : List Text) (rows : List (List Text)) :
    (row :: rows).flatMap rowTexts =
      ("\x7b" : Text) :: (row ++ ("\x7d" : Text) :: rows.flatMap rowTexts) := by
  simp [rowTexts]

theorem mem_constantsTexts {text : Text} (among : text ∈ constantsTexts rows) :
    text = "dcl_immediateConstantBuffer" ∨ text = "\x7b" ∨ text = "\x7d" ∨
      ∃ row ∈ rows, text ∈ row := by
  simp only [constantsTexts, openedTexts, rowTexts, List.mem_append, List.mem_cons,
    List.mem_flatMap, List.not_mem_nil, or_false] at among
  grind

/-- What starts a closed row is open still, or is past the closing brace. -/
theorem row_cut {behind : List Text}
    (starts : tokens.map text <+: row ++ ("\x7d" : Text) :: behind) :
    tokens.map text <+: row ∨
      ∃ values, ∃ closing : Token, ∃ more, tokens = values ++ closing :: more ∧
        values.map text = row ∧ closing.text = "\x7d" ∧ more.map text <+: behind := by
  rcases List.prefix_or_prefix_of_prefix starts (List.prefix_append row _) with within | beyond
  · exact .inl within
  · obtain ⟨back, whole⟩ := beyond
    rw [← whole, List.prefix_append_right_inj] at starts
    obtain ⟨values, rest, rfl, rfl, rfl⟩ := List.map_eq_append_iff.mp whole.symm
    cases rest with
    | nil => exact .inl (by simp)
    | cons closing more =>
      obtain ⟨closes, starts⟩ := List.cons_prefix_cons.mp starts
      exact .inr ⟨values, closing, more, rfl, rfl, closes, starts⟩

theorem rowsFrom_opening (passed : List Token) (rows : List (List Text)) {opening : Token}
    (rest : List Token) (opens : opening.text = "\x7b") :
    rowsFrom passed rows none (opening :: rest) =
      rowsFrom (opening :: passed) rows (some []) rest := by
  simp [rowsFrom, opens]

theorem rowsFrom_row (passed : List Token) (rows : List (List Text)) (row : List Text)
    {values rest : List Token} {closing : Token} (plain : IsRow (values.map text))
    (closes : closing.text = "\x7d") :
    rowsFrom passed rows (some row) (values ++ closing :: rest) =
      rowsFrom (closing :: (values.reverse ++ passed)) (rows ++ [row ++ values.map text]) none
        rest := by
  induction values generalizing passed row with
  | nil => simp [rowsFrom, closes]
  | cons value values ih =>
    obtain ⟨other, others⟩ := List.forall_mem_cons.mp plain
    rw [List.cons_append, rowsFrom, if_neg other, ih _ _ others]
    simp

/-- A row that is never closed is read to the end of the listing. -/
theorem rowsFrom_open (passed : List Token) (rows : List (List Text)) (row : List Text)
    (plain : IsRow (tokens.map text)) :
    rowsFrom passed rows (some row) tokens =
      (.error (.decode .endOfListing ((tokens.reverse ++ passed).head?.map line)),
        ⟨tokens.reverse ++ passed, []⟩) := by
  induction tokens generalizing passed row with
  | nil => rfl
  | cons token tokens ih =>
    obtain ⟨other, others⟩ := List.forall_mem_cons.mp plain
    rw [rowsFrom, if_neg other, ih _ _ others]
    simp

/-- Rows between braces are read one after the other. -/
theorem rowsFrom_rows (passed : List Token) (done : List (List Text)) (rest : List Token)
    (plain : ∀ row ∈ rows, IsRow row) (same : tokens.map text = rows.flatMap rowTexts) :
    rowsFrom passed done none (tokens ++ rest) =
      rowsFrom (tokens.reverse ++ passed) (done ++ rows) none rest := by
  induction rows generalizing passed done tokens with
  | nil =>
    rw [List.map_eq_nil_iff.mp same]
    simp
  | cons row rows ih =>
    obtain ⟨here, others⟩ := List.forall_mem_cons.mp plain
    rw [flatMap_rowTexts] at same
    obtain ⟨opening, more, rfl, opens, same⟩ := List.map_eq_cons_iff.mp same
    obtain ⟨values, more, rfl, rfl, ends⟩ := List.map_eq_append_iff.mp same
    obtain ⟨closing, more, rfl, closes, later⟩ := List.map_eq_cons_iff.mp ends
    rw [List.cons_append, rowsFrom_opening _ _ _ opens, List.append_assoc, List.cons_append,
      rowsFrom_row _ _ _ here closes, ih _ _ others later]
    simp

/-- Rows that break off at any place are read to the end of the listing, and no table is found. -/
theorem rowsFrom_cut (passed : List Token) (done : List (List Text))
    (plain : ∀ row ∈ rows, IsRow row) (starts : tokens.map text <+: rows.flatMap rowTexts) :
    rowsFrom passed done none tokens =
      (.error (.decode .endOfListing ((tokens.reverse ++ passed).head?.map line)),
        ⟨tokens.reverse ++ passed, []⟩) := by
  induction rows generalizing passed done tokens with
  | nil =>
    rw [List.map_eq_nil_iff.mp (List.prefix_nil.mp starts)]
    rfl
  | cons row rows ih =>
    obtain ⟨here, others⟩ := List.forall_mem_cons.mp plain
    cases tokens with
    | nil => rfl
    | cons opening tokens =>
      rw [flatMap_rowTexts] at starts
      obtain ⟨opens, starts⟩ := List.cons_prefix_cons.mp starts
      rw [rowsFrom_opening _ _ _ opens]
      rcases row_cut starts with within | ⟨values, closing, more, rfl, rfl, closes, starts⟩
      · rw [rowsFrom_open _ _ _ (here.of_prefix within)]
        simp
      · rw [rowsFrom_row _ _ _ here closes, ih _ _ others starts]
        simp

theorem classify_constants : ∃ instruction,
    Instruction.classify? "dcl_immediateConstantBuffer" = some instruction ∧
      instruction.opcode.family = .declareConstants :=
  ⟨(Instruction.classify? "dcl_immediateConstantBuffer").get (by decide +kernel),
    by decide +kernel, by decide +kernel⟩

/-- The turn of a buffer has no modifiers to read in front of a brace. -/
theorem runOn_turn_constants (env : Environment) (d : Decoder) {mnemonic : Token}
    (ahead : d.cursor.rest = mnemonic :: after)
    (named : mnemonic.text = "dcl_immediateConstantBuffer")
    (braced : ∀ token ∈ after.head?, token.text = "\x7b") :
    ∃ instruction, runOn turn env d =
      runOn declareConstants env (atOperands d mnemonic [] after instruction) := by
  obtain ⟨instruction, classified, family⟩ := classify_constants
  have stops : ∀ token ∈ after.head?, some mnemonic.line = some token.line →
      token.text ≠ "(" ∧ token.text.head? ≠ some '_' := by
    intro token inside _
    rw [braced token inside]
    decide
  have started := runOn_turn env d mnemonic [] after instruction instruction ahead
    (by rw [named, classified]) (.done stops)
  have dispatched : dispatch instruction = declareConstants := by rw [dispatch, family]
  exact ⟨instruction, by rw [started, dispatched]⟩

section Braced

variable (env : Environment) (d : Decoder) {mnemonic brace : Token} {stream : List Token}
  (ahead : d.cursor.rest = mnemonic :: brace :: stream)
  (named : mnemonic.text = "dcl_immediateConstantBuffer") (opens : brace.text = "\x7b")
  {cursor : Cursor}

include ahead named opens

theorem turn_rows_ok
    (found : rowsFrom (brace :: mnemonic :: d.cursor.passed) [] none stream = (.ok rows, cursor)) :
    ∃ reached, runOn turn env d = (.ok (), reached) ∧ reached.cursor = cursor ∧
      reached.context = { d.context with globalDeclarations :=
        d.context.globalDeclarations ++ [constantsDeclaration env.config.indent rows] } := by
  obtain ⟨instruction, started⟩ := runOn_turn_constants env d ahead named (by simp [opens])
  let inside := atOperands d mnemonic [] (brace :: stream) instruction
  have found : rowsFrom (brace :: inside.cursor.passed) [] none stream = (.ok rows, cursor) := found
  rw [started, runOn_declareConstants_brace env inside brace stream rfl opens, found]
  exact ⟨_, rfl, rfl, rfl⟩

theorem turn_rows_error {fault : Fault}
    (found : rowsFrom (brace :: mnemonic :: d.cursor.passed) [] none stream =
      (.error fault, cursor)) :
    (runOn turn env d).1 = .error fault ∧ (runOn turn env d).2.context = d.context := by
  obtain ⟨instruction, started⟩ := runOn_turn_constants env d ahead named (by simp [opens])
  let inside := atOperands d mnemonic [] (brace :: stream) instruction
  have found : rowsFrom (brace :: inside.cursor.passed) [] none stream = (.error fault, cursor) :=
    found
  rw [started, runOn_declareConstants_brace env inside brace stream rfl opens, found]
  exact ⟨rfl, rfl⟩

end Braced

theorem map_eq_openedTexts (same : tokens.map text = openedTexts rows) :
    ∃ mnemonic brace : Token, ∃ inside, tokens = mnemonic :: brace :: inside ∧
      mnemonic.text = "dcl_immediateConstantBuffer" ∧ brace.text = "\x7b" ∧
      inside.map text = rows.flatMap rowTexts := by
  obtain ⟨mnemonic, more, rfl, named, opened⟩ := List.map_eq_cons_iff.mp same
  obtain ⟨brace, inside, rfl, opens, listed⟩ := List.map_eq_cons_iff.mp opened
  exact ⟨mnemonic, brace, inside, rfl, named, opens, listed⟩

/-- A buffer is read to its closing brace, whatever follows. -/
theorem turn_constants_whole (env : Environment) (d : Decoder) (plain : ∀ row ∈ rows, IsRow row)
    (same : tokens.map text = constantsTexts rows) (ahead : d.cursor.rest = tokens ++ after) :
    ∃ reached, runOn turn env d = (.ok (), reached) ∧
      reached.cursor = ⟨tokens.reverse ++ d.cursor.passed, after⟩ ∧
      reached.context = { d.context with globalDeclarations :=
        d.context.globalDeclarations ++ [constantsDeclaration env.config.indent rows] } := by
  obtain ⟨front, back, rfl, opened, ends⟩ := List.map_eq_append_iff.mp same
  obtain ⟨mnemonic, brace, inside, rfl, named, opens, listed⟩ := map_eq_openedTexts opened
  obtain ⟨closing, rfl, closes⟩ := List.map_eq_singleton_iff.mp ends
  have ahead : d.cursor.rest = mnemonic :: brace :: (inside ++ closing :: after) := by
    simpa using ahead
  refine turn_rows_ok env d ahead named opens ?_
  rw [rowsFrom_rows _ _ _ plain listed, rowsFrom, if_pos closes]
  simp

/-- A buffer that breaks off is refused at the last token there is. -/
theorem turn_constants_cut (env : Environment) (d : Decoder) (plain : ∀ row ∈ rows, IsRow row)
    (some : d.cursor.rest ≠ []) (starts : d.cursor.rest.map text <+: openedTexts rows) :
    (∃ cause, (runOn turn env d).1 =
      .error (.decode cause (d.cursor.rest.getLast?.map line))) ∧
      (runOn turn env d).2.context = d.context := by
  obtain ⟨mnemonic, rest, ahead⟩ := List.exists_cons_of_ne_nil some
  rw [ahead] at starts ⊢
  obtain ⟨named, starts⟩ := List.cons_prefix_cons.mp starts
  cases rest with
  | nil =>
    obtain ⟨instruction, started⟩ := runOn_turn_constants env d ahead named (by simp)
    rw [started, runOn_declareConstants_other _ _ rfl]
    exact ⟨⟨_, rfl⟩, rfl⟩
  | cons brace stream =>
    obtain ⟨opens, starts⟩ := List.cons_prefix_cons.mp starts
    obtain ⟨failed, kept⟩ := turn_rows_error env d ahead named opens
      (rowsFrom_cut _ _ plain starts)
    refine ⟨⟨.endOfListing, failed.trans ?_⟩, kept⟩
    simp [List.getLast?_cons]

/-- A buffer with something else between its rows is refused there. -/
theorem turn_constants_stray (env : Environment) (d : Decoder) (plain : ∀ row ∈ rows, IsRow row)
    {more : List Token} {stray : Token} (same : tokens.map text = openedTexts rows)
    (ahead : d.cursor.rest = tokens ++ stray :: more) (opens : stray.text ≠ "\x7b")
    (closes : stray.text ≠ "\x7d") :
    (runOn turn env d).1 = .error (.decode (.strayConstant stray.text) stray.line) ∧
      (runOn turn env d).2.context = d.context := by
  obtain ⟨mnemonic, brace, inside, rfl, named, braced, listed⟩ := map_eq_openedTexts same
  have found : rowsFrom (brace :: mnemonic :: d.cursor.passed) [] none (inside ++ stray :: more) =
      (.error (.decode (.strayConstant stray.text) stray.line),
        ⟨stray :: (inside.reverse ++ brace :: mnemonic :: d.cursor.passed), more⟩) := by
    rw [rowsFrom_rows _ _ _ plain listed, rowsFrom, if_neg closes, if_neg opens]
  exact turn_rows_error env d ahead named braced found

/-- Immediate constant buffers are read exactly. However a buffer is written, its tokens are the
same. A turn takes them up to the outer closing brace, and adds one global declaration with an
element for each row. If the listing ends before that brace, or something other than a brace stands
between rows, the turn fails and the context stays. -/
theorem turn_constants (rows : List (List Text)) (plain : ∀ row ∈ rows, IsRow row) :
    (∀ written, Divides (constantsTexts rows) written →
      (∀ row ∈ rows, ∀ value ∈ row, Uncommented value ∧ ∀ c ∈ value, Text.isLineBreak c = false) →
      (tokenize written).map text = constantsTexts rows) ∧
    (∀ env d tokens after, tokens.map text = constantsTexts rows →
      d.cursor.rest = tokens ++ after →
      ∃ reached, runOn turn env d = (.ok (), reached) ∧
        reached.cursor = ⟨tokens.reverse ++ d.cursor.passed, after⟩ ∧
        reached.context = { d.context with globalDeclarations := d.context.globalDeclarations ++
          ["static const float4 icb[" ++ Text.ofNat rows.length ++ "] =\n\x7b\n" ++
            Text.join ",\n" (rows.map fun row =>
              env.config.indent ++ "float4(" ++ Text.commaList (row.map constantValue) ++ ")") ++
            "\n\x7d;"] }) ∧
    (∀ env d, d.cursor.rest ≠ [] → d.cursor.rest.map text <+: openedTexts rows →
      (∃ cause, (runOn turn env d).1 =
        .error (.decode cause (d.cursor.rest.getLast?.map line))) ∧
        (runOn turn env d).2.context = d.context) ∧
    ∀ env d tokens (stray : Token) more, tokens.map text = openedTexts rows →
      d.cursor.rest = tokens ++ stray :: more → stray.text ≠ "\x7b" → stray.text ≠ "\x7d" →
      (runOn turn env d).1 = .error (.decode (.strayConstant stray.text) stray.line) ∧
        (runOn turn env d).2.context = d.context := by
  refine ⟨?_, ?_, ?_, ?_⟩
  · intro written divides clean
    have known : ∀ text ∈ constantsTexts rows,
        Uncommented text ∧ ∀ c ∈ text, Text.isLineBreak c = false := by
      intro text among
      rcases mem_constantsTexts among with rfl | rfl | rfl | ⟨row, listed, inside⟩
      · exact ⟨.of_all rfl, Text.unbroken_of_all rfl⟩
      · exact ⟨.of_all rfl, Text.unbroken_of_all rfl⟩
      · exact ⟨.of_all rfl, Text.unbroken_of_all rfl⟩
      · exact clean row listed text inside
    exact texts_tokenize divides (fun text among => (known text among).1)
      fun text among => (known text among).2
  · intro env d tokens after same ahead
    exact turn_constants_whole env d plain same ahead
  · intro env d some starts
    exact turn_constants_cut env d plain some starts
  · intro env d tokens stray more same ahead opens closes
    exact turn_constants_stray env d plain same ahead opens closes

def gridRows : List (List Text) := [["1.0", "0"], [], ["-0", "1065353216"]]

/-- A buffer over several lines, with other separators than commas. -/
def gridWritten : Text :=
  "dcl_immediateConstantBuffer \x7b\n\t\x7b 1.0,\r\n0\x7d, \x7b\x7d\n" ++
    "\x7b,-0 1065353216\x7d\n\n\x7d"

def gridTokens : List Token :=
  [⟨"dcl_immediateConstantBuffer", 1⟩, ⟨"\x7b", 1⟩, ⟨"\x7b", 2⟩, ⟨"1.0", 2⟩, ⟨"0", 3⟩, ⟨"\x7d", 3⟩,
    ⟨"\x7b", 3⟩, ⟨"\x7d", 3⟩, ⟨"\x7b", 4⟩, ⟨"-0", 4⟩, ⟨"1065353216", 4⟩, ⟨"\x7d", 4⟩]

theorem turn_constants_grid :
    (tokenize gridWritten).map text = constantsTexts gridRows ∧
    (∃ reached, runOn turn {} { cursor := ⟨[], gridTokens ++ [⟨"\x7d", 6⟩, ⟨"ret", 7⟩]⟩ } =
        (.ok (), reached) ∧
      reached.cursor.rest = [⟨"ret", 7⟩] ∧
      reached.context.globalDeclarations = [("static const float4 icb[3] =\n\x7b\n" ++
        "    float4(1.0, 0),\n    float4(),\n    float4(-0, asfloat(1065353216))\n\x7d;" : Text)]) ∧
    (∃ cause, (runOn turn {} { cursor := ⟨[], gridTokens.take 4⟩ }).1 =
      .error (.decode cause (some 2))) ∧
    (runOn turn {} { cursor := ⟨[], gridTokens ++ [⟨"ret", 7⟩]⟩ }).1 =
      .error (.decode (.strayConstant "ret") (some 7)) := by
  have plain : ∀ row ∈ gridRows, IsRow row := by
    unfold IsRow
    decide
  have clean : ∀ row ∈ gridRows, ∀ value ∈ row,
      Uncommented value ∧ ∀ c ∈ value, Text.isLineBreak c = false := by
    have checked : gridRows.all (·.all fun value =>
        value.all (fun c => c != '/') && value.all fun c => !Text.isLineBreak c) = true := rfl
    intro row listed value inside
    have both := List.all_eq_true.mp (List.all_eq_true.mp checked row listed) value inside
    obtain ⟨slashless, unbroken⟩ := Bool.and_eq_true_iff.mp both
    exact ⟨.of_all slashless, Text.unbroken_of_all unbroken⟩
  have opened : gridTokens.map text = openedTexts gridRows := rfl
  obtain ⟨read, whole, cut, stray⟩ := turn_constants gridRows plain
  refine ⟨read gridWritten ((divides_iff _ _).mpr rfl) clean, ?_, ?_, ?_⟩
  · obtain ⟨reached, run, place, context⟩ := whole {}
      { cursor := ⟨[], gridTokens ++ [⟨"\x7d", 6⟩, ⟨"ret", 7⟩]⟩ } (gridTokens ++ [⟨"\x7d", 6⟩])
      [⟨"ret", 7⟩] rfl rfl
    exact ⟨reached, run, by rw [place], by rw [context]; rfl⟩
  · exact (cut {} { cursor := ⟨[], gridTokens.take 4⟩ } (by decide)
      ⟨(openedTexts gridRows).drop 4, rfl⟩).1
  · exact (stray {} { cursor := ⟨[], gridTokens ++ [⟨"ret", 7⟩]⟩ } gridTokens ⟨"ret", 7⟩ [] opened
      rfl (by decide) (by decide)).1

end ShaderLift.Decoding
