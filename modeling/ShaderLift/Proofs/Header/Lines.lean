import ShaderLift.Conversion
import ShaderLift.Proofs.Header.Stepping
import ShaderLift.Proofs.Text.Digits
import ShaderLift.Proofs.Text.Ends
import ShaderLift.Proofs.Text.Words

namespace ShaderLift

/-- A row whose columns are words; its field goes by its semantic. -/
structure Signature.IsScanned (s : Signature) : Prop where
  semantic : s.semantic.IsSolid
  format : s.format.IsSolid
  fieldName : s.fieldName = semanticName s.semantic

theorem forall_mem_concat {α : Type} {kind : α → Prop} {items : List α} {added : α}
    (each : ∀ item ∈ items, kind item) (last : kind added) :
    ∀ item ∈ items ++ [added], kind item :=
  List.forall_mem_append.mpr ⟨each, List.forall_mem_singleton.mpr last⟩

/-- What a line of a listing is to the scan. -/
inductive HeaderLine where
  /-- A blank line, or a comment that carries no declaration. -/
  | idle
  /-- A line that is no comment. -/
  | code
  | title (opened : Section)
  | comment (body : Text)

def HeaderLine.ofText (text : Text) : HeaderLine :=
  let stripped := Text.trim text
  match Text.after? "//" stripped with
  | none => if stripped.isEmpty then .idle else .code
  | some inside =>
    let body := Text.trim inside
    if Scan.isIgnored body then .idle
    else
      match Section.ofTitle? body with
      | some opened => .title opened
      | none => .comment body

/-- The lines of a listing as the scan takes them. -/
def headerLines (listing : Text) : List HeaderLine := (Text.lines listing).map .ofText

/-- What a line of the definitions declares. The fields of a variable, which may stand behind the
brace that closes a structure, are its name and its place. -/
inductive Definition where
  | idle
  | buffer (name : Text)
  | opening (structureName : Text)
  | closing (fields : List Text)
  | plain (type : Text) (fields : List Text)

def Definition.ofColumns : List Text → Definition
  | [] => .idle
  | first :: rest =>
    if first = "cbuffer" || first = "tbuffer" then
      match rest with
      | [] => .idle
      | name :: _ => .buffer (Text.without '$' name)
    else if first = ['\x7b'] then .idle
    else if first = "struct" then
      match rest with
      | [] => .idle
      | name :: _ => .opening name
    else if first = ['\x7d'] then .closing rest
    else .plain first rest

/-- A line of the definitions: the packing order that it announces, and what it declares. -/
structure DefinitionLine where
  layout? : Option Layout := none
  declares : Definition := .idle

def DefinitionLine.ofBody (body : Text) : DefinitionLine :=
  if (Text.after? Scan.bindInfoTitle body).isSome then {}
  else
    match Text.words (Scan.blankMarks body) with
    | [] => {}
    | first :: rest =>
      match Scan.layoutKeyword? first with
      | none => ⟨none, .ofColumns (first :: rest)⟩
      | some layout => ⟨layout, .ofColumns rest⟩

/-- The number in a column. -/
def numberIn (column : Text) : Int :=
  match Text.toInt column with
  | .ok value => value
  | .error _ => 0

/-- The name that the fields behind a type or a closing brace start with. -/
def fieldName (fields : List Text) : Text := Text.trimEndOf ';' (fields.getD 0 [])

/-- The variable with a type and with a name and a place read from fields. -/
def Variable.ofFields (type : Text) (fields : List Text) (layout : Layout) : Variable :=
  { type, name := fieldName fields, offset := numberIn (fields.getD 2 [])
    size := if 4 < fields.length then numberIn (fields.getD 4 []) else 0, layout }

/-- Whether the fields behind a closing brace name a variable. The name of the elements of a
structured buffer does not. -/
def namesVariable (fields : List Text) : Bool :=
  !(fieldName fields).isEmpty && fieldName fields ≠ "$Element"

/-- The buffers and structures met so far, those still open, and where the next line stands. -/
structure Scope where
  openSection : Option Section := none
  buffers : List ConstantBuffer := []
  structures : List Structure := []
  openBuffer : Option ConstantBuffer := none
  /-- The open structures, innermost first. -/
  openStructures : List Structure := []
  layout : Layout := .default

namespace Scope

/-- Registers the open buffer, if there is one. -/
def closeBuffer (scope : Scope) : Scope :=
  { scope with buffers := scope.buffers ++ scope.openBuffer.toList, openBuffer := none }

/-- Registers a structure unless one of its name is there. -/
def register (structures : List Structure) (added : Structure) : List Structure :=
  if (Declarations.findStructure? structures added.name).isSome then structures
  else structures ++ [added]

/-- Adds a variable to the innermost open structure, or else to the open buffer. -/
def put (added : Variable) (scope : Scope) : Scope :=
  match scope.openStructures, scope.openBuffer with
  | inner :: outer, _ =>
    { scope with
      layout := .default
      openStructures := { inner with members := inner.members ++ [added] } :: outer }
  | [], some buffer =>
    { scope with
      layout := .default
      openBuffer := some { buffer with members := buffer.members ++ [added] } }
  | [], none => { scope with layout := .default }

/-- Adds the variable with a type and fields, which takes the packing order that is announced. -/
def declare (type : Text) (fields : List Text) (scope : Scope) : Scope :=
  scope.put (.ofFields type fields scope.layout)

def define (scope : Scope) : Definition → Scope
  | .idle => scope
  | .buffer name => { scope.closeBuffer with openBuffer := some { name } }
  | .opening structureName =>
    { scope with openStructures := { name := structureName } :: scope.openStructures }
  | .closing fields =>
    match scope.openStructures with
    | [] => scope.closeBuffer
    | inner :: outer =>
      let left : Scope :=
        { scope with openStructures := outer, structures := register scope.structures inner }
      if namesVariable fields then left.declare inner.name fields else left
  | .plain type fields =>
    if scope.openStructures.isEmpty && scope.openBuffer.isNone then scope
    else scope.declare type fields

def feed (scope : Scope) : HeaderLine → Scope
  | .idle => scope
  | .code =>
    if scope.openSection.isSome then { scope.closeBuffer with openSection := none } else scope
  | .title opened => { scope.closeBuffer with openSection := some opened }
  | .comment body =>
    if scope.openSection = some .definitions then
      let line := DefinitionLine.ofBody body
      { scope with layout := line.layout?.getD scope.layout }.define line.declares
    else scope

/-- Reads lines one by one. -/
def feedAll (scope : Scope) (lines : List HeaderLine) : Scope := lines.foldl feed scope

end Scope

namespace Scan

open Stepping

/-- What a scan has met of buffers and structures. -/
def scope (s : Scan) : Scope :=
  { openSection := s.openSection, buffers := s.declared.buffers
    structures := s.declared.structures, openBuffer := s.openBuffer
    openStructures := s.openStructures, layout := s.layout }

/-- The faults with which a line stops the scan and which are not reported. -/
inductive LineDefect (text : Text) : Fault → Prop
  /-- A comment holds nothing but further comment marks. -/
  | marksOnly {comment : Text} (commented : Text.after? "//" (Text.trim text) = some comment)
      (marked : Text.trim comment ≠ []) (empty : Text.words (blankMarks (Text.trim comment)) = []) :
      LineDefect text .emptyDefinition
  /-- A run of digits in a word is no number: one of them has no place value, or there are too
  many. -/
  | digits {word run : Text} {issue : Text.IntegerIssue} (among : Text.IsWordOf text word)
      (last : run <:+ word) (digits : Text.allDigits run = true)
      (bad : Text.toInt run = .error issue) : LineDefect text (.badInteger run issue)

/-- The faults with which a line stops the scan. -/
def LineFault (text : Text) (fault : Fault) : Prop :=
  fault.isReported = true ∨ LineDefect text fault

/-- The rows of the signatures are made of words. -/
def HasRows (s : Scan) : Prop :=
  (∀ row ∈ s.declared.inputs, row.IsScanned) ∧ ∀ row ∈ s.declared.outputs, row.IsScanned

/-- A later scan has buffers and structures as given, and no rows other than those made of words. -/
def Follows (s : Scan) (known : Scope) (t : Scan) : Prop :=
  t.scope = known ∧ (s.HasRows → t.HasRows)

/-- Wherever a step leads without failing, the buffers and structures are as given. It fails only
with faults of a kind. -/
def Yields {α : Type} (cause : Fault → Prop) (s : Scan) (step : Scanning α) (known : Scope) : Prop :=
  Leads cause s step fun _ t => s.Follows known t

theorem exists_closeBuffer (s : Scan) :
    ∃ reached, runFrom closeBuffer s = (.ok (), reached) ∧ s.Follows s.scope.closeBuffer reached := by
  cases opened : s.openBuffer with
  | none =>
    refine ⟨s, ?_, ?_, id⟩
    · rw [closeBuffer, runFrom_bind_of_ok (runFrom_get s), opened, runFrom_pure]
    · simp only [scope, Scope.closeBuffer, opened, Option.toList_none, List.append_nil]
  | some buffer =>
    refine ⟨{ s with declared := s.declared.addBuffer buffer, openBuffer := none }, ?_, ?_, id⟩
    · rw [closeBuffer, runFrom_bind_of_ok (runFrom_get s), opened]
      rfl
    · simp only [scope, Scope.closeBuffer, opened, Option.toList_some, Declarations.addBuffer]

theorem finalDigits_isSuffix (text : Text) : finalDigits text <:+ text := by
  have turned := List.reverse_suffix.mpr (List.takeWhile_prefix Text.isDecimal (l := text.reverse))
  rwa [List.reverse_reverse] at turned

theorem allDigits_finalDigits (text : Text) (some : ¬(finalDigits text).isEmpty = true) :
    Text.allDigits (finalDigits text) = true := by
  apply Text.allDigits_decimals
  · simpa using some
  · intro c inside
    exact List.all_eq_true.mp List.all_takeWhile c (List.mem_reverse.mp inside)

theorem putVariable_follows (added : Variable) (s : Scan) :
    s.Follows (s.scope.put added) (putVariable added { s with layout := .default }) := by
  obtain ⟨_, _, buffer, _, structures, _, _⟩ := s
  cases structures <;> cases buffer <;> exact ⟨rfl, id⟩

theorem addStructure_follows (s : Scan) (inner : Structure) (outer : List Structure) :
    s.Follows
      { s.scope with
        openStructures := outer, structures := Scope.register s.scope.structures inner }
      { s with openStructures := outer, declared := s.declared.addStructure inner } := by
  have changed : s.declared.addStructure inner =
      { s.declared with structures := Scope.register s.declared.structures inner } := by
    unfold Declarations.addStructure Scope.register
    split <;> rfl
  rw [changed]
  exact ⟨rfl, id⟩

section Steps

variable {cause : Fault → Prop} (reported : ∀ fault, fault.isReported = true → cause fault)
include reported

theorem number_leads (what text : Text) (line : Int) (s : Scan) :
    Leads cause s (number what text line) fun value t => value = numberIn text ∧ t = s := by
  unfold number numberIn
  cases Text.toInt text with
  | ok value => exact .returned ⟨rfl, rfl⟩
  | error issue => exact .throw (reported _ rfl)

theorem addVariable_yields (type : Text) (fields : List Text) (line : Int) (s : Scan) :
    Yields cause s (addVariable (type :: fields) line) (s.scope.declare type fields) := by
  apply Leads.andThen (runFrom_get s)
  apply Leads.ite
  · intro _
    exact .throw_bind (reported _ rfl)
  intro _
  apply Leads.bind (number_leads reported _ _ line s)
  rintro offset _ ⟨offsetIs, rfl⟩
  apply Leads.ite
  · intro sized
    apply Leads.bind (number_leads reported _ _ line _)
    rintro size _ ⟨sizeIs, rfl⟩
    apply Leads.done (runFrom_modify _ _)
    rw [Scope.declare, Variable.ofFields, if_pos (Nat.lt_of_succ_lt_succ sized), offsetIs, sizeIs]
    exact putVariable_follows _ _
  · intro unsized
    apply Leads.andThen (runFrom_pure _ _)
    apply Leads.done (runFrom_modify _ _)
    rw [Scope.declare, Variable.ofFields, if_neg fun sized => unsized (Nat.succ_lt_succ sized),
      offsetIs]
    exact putVariable_follows _ _

theorem closeBlock_yields (brace : Text) (fields : List Text) (line : Int) (s : Scan) :
    Yields cause s (closeBlock (brace :: fields) line) (s.scope.define (.closing fields)) := by
  apply Leads.andThen (runFrom_get s)
  cases opened : s.openStructures with
  | nil =>
    have closes : s.scope.define (.closing fields) = s.scope.closeBuffer := by
      simp only [Scope.define, scope, opened]
    obtain ⟨reached, returns, follows⟩ := exists_closeBuffer s
    rw [closes]
    apply Leads.ite
    · intro _
      exact .done returns follows
    · intro closed
      have none : s.openBuffer = none := by simpa using closed
      exact .done (runFrom_set _ _) ⟨by simp [scope, Scope.closeBuffer, none, opened], id⟩
  | cons inner outer =>
    obtain ⟨left, kept⟩ := s.addStructure_follows inner outer
    have unnamed (missing : namesVariable fields = false) :
        s.scope.define (.closing fields) =
          ({ s with openStructures := outer, declared := s.declared.addStructure inner } :
            Scan).scope := by
      simp only [left, Scope.define, missing, Bool.false_eq_true, if_false]
      simp only [scope, opened]
    have named (given : namesVariable fields = true) :
        s.scope.define (.closing fields) =
          ({ s with openStructures := outer, declared := s.declared.addStructure inner } :
            Scan).scope.declare inner.name fields := by
      simp only [left, Scope.define, given, if_true]
      simp only [scope, opened]
    apply Leads.andThen (runFrom_set _ _)
    apply Leads.andThen (runFrom_modify _ _)
    apply Leads.ite
    · intro element
      have missing : namesVariable fields = false := by
        rw [namesVariable, Bool.and_eq_false_iff, decide_eq_false_iff_not]
        exact .inr (not_not_intro element)
      rw [unnamed missing]
      cases s.bindInfo with
      | none => exact .done (runFrom_pure _ _) ⟨rfl, kept⟩
      | some resource => exact .done (runFrom_modify _ _) ⟨rfl, kept⟩
    intro other
    apply Leads.ite
    · intro some
      have given : namesVariable fields = true := by
        rw [namesVariable, Bool.and_eq_true, decide_eq_true_eq]
        exact ⟨some, other⟩
      rw [named given]
      exact (addVariable_yields reported inner.name fields line _).mono
        (fun _ _ follows => ⟨follows.1, fun rows => follows.2 (kept rows)⟩) fun _ => id
    · intro none
      have missing : namesVariable fields = false := by
        rw [namesVariable, Bool.and_eq_false_iff]
        exact .inl (eq_false_of_ne_true none)
      rw [unnamed missing]
      exact .done (runFrom_pure _ _) ⟨rfl, kept⟩

theorem readColumns_yields (first : Text) (rest : List Text) (line : Int) (s : Scan) :
    Yields cause s (readColumns first (first :: rest) line)
      (s.scope.define (.ofColumns (first :: rest))) := by
  rw [Definition.ofColumns.eq_def]
  dsimp only
  unfold readColumns
  apply Leads.ite
  · intro buffer
    rw [if_pos buffer]
    cases rest with
    | nil => exact .throw (reported _ rfl)
    | cons name others =>
      obtain ⟨reached, returns, same, kept⟩ := exists_closeBuffer s
      apply Leads.andThen returns
      apply Leads.done (runFrom_modify _ _)
      simp only [Scope.define, ← same]
      exact ⟨rfl, kept⟩
  intro noBuffer
  rw [if_neg noBuffer]
  apply Leads.ite
  · intro brace
    rw [if_pos brace]
    exact .done (runFrom_pure _ _) ⟨rfl, id⟩
  intro noBrace
  rw [if_neg noBrace]
  apply Leads.ite
  · intro struct
    rw [if_pos struct]
    cases rest with
    | nil => exact .throw (reported _ rfl)
    | cons name others => exact .done (runFrom_modify _ _) ⟨rfl, id⟩
  intro noStruct
  rw [if_neg noStruct]
  apply Leads.ite
  · intro closes
    rw [if_pos closes]
    exact closeBlock_yields reported first rest line s
  intro plain
  rw [if_neg plain]
  apply Leads.andThen (runFrom_get s)
  simp only [Scope.define]
  apply Leads.ite
  · intro outside
    rw [if_pos (by exact outside)]
    exact .done (runFrom_modify _ _) ⟨rfl, id⟩
  · intro inside
    rw [if_neg (by exact inside)]
    exact addVariable_yields reported first rest line s

theorem readDefinition_yields (body : Text) (line : Int) (s : Scan)
    (empty : Text.words (blankMarks body) = [] → cause .emptyDefinition) :
    Yields cause s (readDefinition body line)
      ({ s.scope with layout := (DefinitionLine.ofBody body).layout?.getD s.scope.layout }.define
        (DefinitionLine.ofBody body).declares) := by
  unfold readDefinition DefinitionLine.ofBody
  cases Text.after? bindInfoTitle body with
  | some name => exact .done (runFrom_modify _ _) ⟨rfl, id⟩
  | none =>
    cases columns : Text.words (blankMarks body) with
    | nil => exact .throw (empty columns)
    | cons first rest =>
      cases keyword : layoutKeyword? first with
      | none =>
        simp only [Option.isSome_none, Bool.false_eq_true, if_false, keyword]
        exact readColumns_yields reported first rest line s
      | some layout =>
        simp only [Option.isSome_none, Bool.false_eq_true, if_false, keyword]
        apply Leads.andThen (runFrom_modify _ _)
        cases rest with
        | nil => exact .done (runFrom_pure _ _) ⟨rfl, id⟩
        | cons second others => exact readColumns_yields reported second others line { s with layout }

variable {body : Text} (digits : ∀ word run issue, Text.IsWordOf body word → run <:+ word →
  Text.allDigits run = true → Text.toInt run = .error issue → cause (.badInteger run issue))
include digits

omit reported in
theorem readInteger_leads {word run : Text} (among : word ∈ Text.words body) (last : run <:+ word)
    (all : Text.allDigits run = true) (s : Scan) :
    Leads cause s (liftM (Fault.readInteger run)) fun _ t => t = s := by
  refine (Leads.lift fun fault failed => ?_).mono (fun _ _ found => found.2) fun _ => id
  unfold Fault.readInteger at failed
  split at failed
  · cases failed
  · rename_i issue bad
    cases failed
    exact digits word run issue (Text.isWordOf_of_mem_words among) last all bad

/-- Bindings and signatures say nothing of buffers and structures. -/
theorem readBinding_yields (line : Int) (s : Scan) :
    Yields cause s (readBinding body line) s.scope := by
  unfold readBinding
  split
  · rename_i name kind format dimension bindName count others columns
    apply Leads.ite
    · intro _
      exact .throw_bind (reported _ rfl)
    intro some
    apply Leads.bind (readInteger_leads digits (by rw [columns]; simp)
      (finalDigits_isSuffix bindName) (allDigits_finalDigits bindName some) s)
    rintro bind _ rfl
    apply Leads.bind (number_leads reported _ count line _)
    rintro count _ ⟨_, rfl⟩
    exact .done (runFrom_modify _ _) ⟨rfl, id⟩
  · exact .throw (reported _ rfl)

theorem readSignature_leads (line : Int) (s : Scan) :
    Leads cause s (readSignature body line) fun row? t =>
      t = s ∧ ∀ row ∈ row?, row.IsScanned := by
  apply Leads.ite
  · intro _
    refine .done (runFrom_pure _ _) ⟨rfl, ?_⟩
    rintro _ ⟨⟩
  intro _
  split
  · rename_i semantic index mask register systemValue format others columns
    have word {text : Text} (inside : text ∈ Text.words body) := Text.isWordOf_of_mem_words inside
    rw [columns] at word
    have row (index : Int) (number : Option Int) : ∀ row ∈ some
        { semantic, index, mask, register := number, registerName := register, systemValue, format,
          fieldName := semanticName semantic : Signature }, row.IsScanned := by
      rintro row ⟨⟩
      exact ⟨(word (by simp)).solid, (word (by simp)).solid, rfl⟩
    apply Leads.bind (number_leads reported _ index line s)
    rintro index _ ⟨_, rfl⟩
    apply Leads.ite
    · intro all
      rw [map_eq_pure_bind, bind_assoc]
      apply Leads.bind (readInteger_leads digits (by rw [columns]; simp) (List.suffix_refl register)
        all _)
      rintro number _ rfl
      rw [pure_bind]
      exact .done (runFrom_pure _ _) ⟨rfl, row index number⟩
    · intro _
      exact .andThen (runFrom_pure _ _) (.done (runFrom_pure _ _) ⟨rfl, row index none⟩)
  · exact .throw (reported _ rfl)

theorem readDeclaration_yields (empty : Text.words (blankMarks body) = [] → cause .emptyDefinition)
    (line : Int) (s : Scan) :
    Yields cause s (readDeclaration body line) (s.scope.feed (.comment body)) := by
  apply Leads.andThen (runFrom_get s)
  have elsewhere (other : s.openSection ≠ some .definitions) :
      s.scope.feed (.comment body) = s.scope := if_neg other
  cases opened : s.openSection with
  | none =>
    rw [elsewhere (by rw [opened]; nofun)]
    exact .done (runFrom_pure _ _) ⟨rfl, id⟩
  | some opened' =>
    cases opened' with
    | definitions =>
      have here : s.scope.feed (.comment body) = _ := if_pos opened
      rw [here]
      exact readDefinition_yields reported body line s empty
    | bindings =>
      rw [elsewhere (by rw [opened]; nofun)]
      exact readBinding_yields reported digits line s
    | inputSignature =>
      rw [elsewhere (by rw [opened]; nofun)]
      apply Leads.bind (readSignature_leads reported digits line s)
      rintro (_ | row) _ ⟨rfl, scanned⟩
      · exact .done (runFrom_pure _ _) ⟨rfl, id⟩
      · exact .done (runFrom_modify _ _)
          ⟨rfl, fun rows => ⟨forall_mem_concat rows.1 (scanned row rfl), rows.2⟩⟩
    | outputSignature =>
      rw [elsewhere (by rw [opened]; nofun)]
      apply Leads.bind (readSignature_leads reported digits line s)
      rintro (_ | row) _ ⟨rfl, scanned⟩
      · exact .done (runFrom_pure _ _) ⟨rfl, id⟩
      · exact .done (runFrom_modify _ _)
          ⟨rfl, fun rows => ⟨rows.1, forall_mem_concat rows.2 (scanned row rfl)⟩⟩
    | unknown =>
      rw [elsewhere (by rw [opened]; nofun)]
      exact .done (runFrom_pure _ _) ⟨rfl, id⟩

end Steps

/-- A line does to buffers and structures what its text says. -/
theorem feed_yields (text : Text) (line : Int) (s : Scan) :
    Yields (LineFault text) s (feed text line) (s.scope.feed (.ofText text)) := by
  obtain ⟨closed, returns, same, kept⟩ := exists_closeBuffer s
  unfold feed HeaderLine.ofText
  dsimp only
  cases commented : Text.after? "//" (Text.trim text) with
  | none =>
    apply Leads.andThen (runFrom_get s)
    apply Leads.ite
    · intro coded
      rw [Bool.and_eq_true, Bool.not_eq_true'] at coded
      have leaves : s.scope.feed .code = { s.scope.closeBuffer with openSection := none } :=
        if_pos coded.2
      rw [coded.1, if_neg Bool.false_ne_true, leaves, ← same]
      exact .andThen returns (.done (runFrom_modify _ _) ⟨rfl, kept⟩)
    · intro other
      rw [Bool.and_eq_true, Bool.not_eq_true', not_and] at other
      have stays : s.scope.feed
          (if (Text.trim text).isEmpty = true then .idle else .code) = s.scope := by
        split
        · rfl
        · rename_i visible
          exact if_neg (other (eq_false_of_ne_true visible))
      rw [stays]
      exact .done (runFrom_pure _ _) ⟨rfl, id⟩
  | some comment =>
    dsimp only
    apply Leads.ite
    · intro ignored
      rw [if_pos ignored]
      exact .done (runFrom_pure _ _) ⟨rfl, id⟩
    intro read
    rw [if_neg read]
    cases Section.ofTitle? (Text.trim comment) with
    | none =>
      have inside : Text.trim comment <:+: text := by
        have whole := Text.eq_of_after? _ _ _ commented
        have behind : comment <:+: Text.trim text := by
          rw [whole]
          exact (List.suffix_append ..).isInfix
        exact (Text.trim_isInfix comment).trans (behind.trans (Text.trim_isInfix text))
      apply readDeclaration_yields fun fault known => .inl known
      · intro word run issue found last all bad
        exact .inr (.digits ⟨found.nonempty, found.solid, found.within.trans inside⟩ last all bad)
      · intro empty
        refine .inr (.marksOnly commented ?_ empty)
        intro none
        rw [none] at read
        exact read rfl
    | some opened =>
      have opens : s.scope.feed (.title opened) =
          { s.scope.closeBuffer with openSection := some opened } := rfl
      rw [opens, ← same]
      exact .andThen returns (.andThen (runFrom_modify _ _) (.done (runFrom_modify _ _) ⟨rfl, kept⟩))

/-- The faults with which a listing stops the scan: those of its lines. -/
def ListingFault (lines : List Text) (fault : Fault) : Prop := ∃ text ∈ lines, LineFault text fault

theorem feedAll_yields (line : Int) (lines : List Text) (s : Scan) :
    Yields (ListingFault lines) s (feedAll line lines) (s.scope.feedAll (lines.map .ofText)) := by
  induction lines generalizing line s with
  | nil => exact .done (runFrom_pure _ _) ⟨rfl, id⟩
  | cons text rest ih =>
    apply Leads.bind ((feed_yields text line s).mono (fun _ _ => id) fun _ known =>
      ⟨text, List.mem_cons_self, known⟩)
    rintro _ middle ⟨same, kept⟩
    rw [List.map_cons, Scope.feedAll, List.foldl_cons, ← same]
    refine (ih (line + 1) middle).mono ?_ ?_
    · exact fun _ _ follows => ⟨follows.1, fun rows => follows.2 (kept rows)⟩
    · rintro fault ⟨later, inside, known⟩
      exact ⟨later, List.mem_cons_of_mem text inside, known⟩

theorem scan_yields (listing : Text) :
    Yields (ListingFault (Text.lines listing)) {} (scan listing)
      (Scope.feedAll {} (headerLines listing)).closeBuffer := by
  apply Leads.bind (feedAll_yields 1 _ {})
  rintro _ middle ⟨same, kept⟩
  obtain ⟨closed, returns, known, still⟩ := exists_closeBuffer middle
  rw [same] at known
  exact .done returns ⟨known, fun rows => still (kept rows)⟩

/-- A header is what its lines declare one by one, and one that cannot be read has a line that
cannot. -/
theorem scanHeader_ends (listing : Text) :
    (∀ d, (scanHeader listing).result = .ok d →
      (d.buffers = (Scope.feedAll {} (headerLines listing)).closeBuffer.buffers ∧
        d.structures = (Scope.feedAll {} (headerLines listing)).structures) ∧
      (∀ row ∈ d.inputs, row.IsScanned) ∧ ∀ row ∈ d.outputs, row.IsScanned) ∧
    ∀ fault, (scanHeader listing).result = .error fault →
      ListingFault (Text.lines listing) fault := by
  have run : Ends _ _ (scan listing {}) := scan_yields listing
  unfold scanHeader
  generalize scan listing {} = ended at run ⊢
  cases run with
  | returned follows =>
    refine ⟨?_, ?_⟩
    · rintro d ⟨⟩
      exact ⟨⟨congrArg Scope.buffers follows.1, congrArg Scope.structures follows.1⟩,
        follows.2 ⟨List.forall_mem_nil _, List.forall_mem_nil _⟩⟩
    · rintro _ ⟨⟩
  | failed known =>
    refine ⟨?_, ?_⟩
    · rintro _ ⟨⟩
    · rintro fault ⟨⟩
      exact known

/-- The buffers and structures of a header are those that its lines declare, one by one. -/
theorem scanHeader_scope {listing : Text} {d : Declarations}
    (scanned : (scanHeader listing).result = .ok d) :
    d.buffers = (Scope.feedAll {} (headerLines listing)).closeBuffer.buffers ∧
      d.structures = (Scope.feedAll {} (headerLines listing)).structures :=
  ((scanHeader_ends listing).1 d scanned).1

end Scan
end ShaderLift
