import ShaderLift.Proofs.Structured.Cast

namespace ShaderLift

open Operand

/-- An operand is read as an expression and cast to a target. -/
def ReadOperand.IsRead (registers : Registers) (target : Swizzle) (o : ReadOperand) : Prop :=
  ∃ expression, Decoding.resolved registers o.listed = .ok expression ∧
    registers.cast expression target = .ok o.text

/-- An operand names what the components of a mask are written to. -/
structure ReadOperand.IsTarget (registers : Registers) (mask : List Component) (o : ReadOperand) :
    Prop where
  written : o.listed ≠ "null"
  selects : swizzleOf o.listed = .ofComponents mask
  resolves : Decoding.resolved registers o.listed = .ok o.text
  named : Decoding.dropFullSelector o.text ≠ []

/-- A literal byte offset: digits that no row of a signature and no constant goes by. -/
structure Registers.IsOffset (registers : Registers) (digits : Text) : Prop where
  filled : digits ≠ []
  numeric : ∀ c ∈ digits, c.isDigit = true
  short : digits.length ≤ Text.maxIntegerDigits
  unlisted : registers.IsUnlisted digits
  unnamed : registers.constants.fields.get? digits = none

namespace Registers.IsOffset

variable {registers : Registers} {digits : Text}

section Digits

variable (offset : registers.IsOffset digits)

include offset

theorem notMem {c : Char} (other : c.isDigit = false) :
    c ∉ digits := by
  intro inside
  rw [offset.numeric c inside] at other
  cases other

theorem head?_ne {c : Char} (other : c.isDigit = false) :
    digits.head? ≠ some c :=
  fun start => offset.notMem other (List.mem_of_head? start)

theorem bare : IsBare digits :=
  ⟨offset.head?_ne (by decide), offset.head?_ne (by decide), offset.notMem (by decide)⟩

theorem splitSelector :
    Operand.splitSelector digits = (digits, []) := by
  unfold Operand.splitSelector
  rw [splitLast?_eq_none '.' digits (offset.notMem (by decide))]

theorem normalizeIndexed :
    Operand.normalizeIndexed digits = .ok digits :=
  normalizeIndexed_unindexed (offset.notMem (by decide))

end Digits

variable {declared : Declarations}

/-- A literal offset stands for itself. -/
theorem resolved (returns : declared.resolve.fault = none)
    (offset : declared.resolve.registers.IsOffset digits) :
    Decoding.resolved declared.resolve.registers digits = .ok digits := by
  obtain ⟨c, rest, rfl⟩ := List.exists_cons_of_ne_nil offset.filled
  have digit : c.isDigit = true := offset.numeric c (List.mem_cons_self ..)
  have unmarked : c ∉ namedMarks := by
    intro marked
    simp only [namedMarks, List.mem_cons, List.not_mem_nil, or_false] at marked
    rcases marked with rfl | rfl | rfl | rfl <;> exact absurd digit (by decide)
  apply resolved_of_unnamed offset.bare.splitModifiers _ offset.normalizeIndexed
  rw [findName?_unlisted returns offset.unlisted rfl unmarked offset.splitSelector]
  exact findConstant?_eq_none returns (offset.head?_ne (by decide)) (offset.head?_ne (by decide))
    offset.splitSelector

theorem cast (offset : registers.IsOffset digits) {mask : List Component} (filled : mask ≠ []) :
    registers.cast digits (.ofComponents mask) = .ok digits := by
  rw [cast_unnamed filled offset.bare.splitModifiers (constructor?_uncalled offset.bare.uncalled)
    offset.unnamed (by rw [offset.splitSelector]; exact offset.unnamed)]
  unfold reselect
  rw [offset.splitSelector]
  rfl

end Registers.IsOffset

/-- A temporary that no row goes by is a target. -/
theorem ReadOperand.isTarget_temporary {declared : Declarations}
    (returns : declared.resolve.fault = none) {number : Nat}
    (unlisted : declared.resolve.registers.IsUnlisted (temporary number)) {mask : List Component}
    (filled : mask ≠ []) (short : mask.length ≤ 4) {text : Text}
    (listed : text = temporary number ++ Component.suffix mask) :
    (⟨text, text⟩ : ReadOperand).IsTarget declared.resolve.registers mask := by
  subst listed
  refine ⟨?_, Decoding.swizzleOf_temporary number mask filled short,
    Decoding.resolved_temporary returns number unlisted mask filled short,
    Decoding.dropFullSelector_ne_nil number _⟩
  intro same
  cases (List.cons.inj same).1

/-- A selection on a free temporary is read as the components that it takes for a mask. -/
theorem ReadOperand.isRead_selection {declared : Declarations}
    (returns : declared.resolve.fault = none) {s : Selection}
    (proper : s.IsProper declared.resolve.registers) (mask : List Component) :
    (⟨s.listed, (s.fit mask).text⟩ : ReadOperand).IsRead declared.resolve.registers
      (.ofComponents mask) :=
  ⟨s.text, Selection.resolved_listed returns proper, Selection.cast_text proper mask⟩

/-- The buffer behind an entry as an operand. -/
def operandOf (entry : ResourceEntry) (selected : List Component) : ResourceOperand :=
  ⟨entry.expandedName, selected, some entry, none⟩

/-- A structured buffer behind a register: the entry that is bound there and the members of its
elements. -/
structure IsBuffer (env : Environment) (context : Context) (base : Text) (entry : ResourceEntry)
    (members : List Variable) : Prop where
  register : IsRegister base
  unshared : context.sharedMemory.get? base = none
  bound : (env.symbols.registers.uavs.registers.get? base).or
    (env.symbols.registers.textures.registers.get? base) = some entry
  structured : Decoding.elementMembers env.symbols.declared.structures (operandOf entry []) =
    members
  named : env.symbols.registers.IsBufferName entry.expandedName

namespace Decoding

variable {α : Type} {env : Environment} {d : Decoder} {passed tokens rest : List Token} {log : Log}
  {text : Text}

/-- An operand that is there, and what follows it. -/
theorem runOn_raw_bind (operand : IsOperand d.line tokens rest text) (next : Text → Decoding α) :
    runOn (readRawOperand >>= next) env (d.past passed (tokens ++ rest) log) =
      runOn (next text) env (d.past (passed ++ tokens) rest log) := by
  have read := runOn_readRawOperand_of_isOperand env (d.past passed (tokens ++ rest) log) rfl
    operand
  rw [runOn_bind_of_ok _ _ _ _ _ _ read, Decoder.past_past]
  rfl

theorem runOn_target_bind {o : ReadOperand} {mask : List Component}
    (target : o.IsTarget env.symbols.registers mask)
    (operand : IsOperand d.line tokens rest o.listed) (next : Destination → Decoding α) :
    runOn (readDestination >>= next) env (d.past passed (tokens ++ rest) log) =
      runOn (next (destinationOf o.listed o.text)) env (d.past (passed ++ tokens) rest log) := by
  have raw := runOn_readRawOperand_of_isOperand env (d.past passed (tokens ++ rest) log) rfl operand
  have read := runOn_readDestination_raw raw target.written target.resolves
  rw [runOn_bind_of_ok _ _ _ _ _ _ read, Decoder.past_past]
  rfl

theorem runOn_scalar_bind {o : ReadOperand} (read : o.IsRead env.symbols.registers (.first 1))
    (next : Text → Decoding α) (d : Decoder) :
    runOn (scalar o.listed >>= next) env d = runOn (next o.text) env d := by
  obtain ⟨expression, resolves, casts⟩ := read
  have run : runOn (scalar o.listed) env d = (.ok o.text, d) := by
    rw [scalar, runOn_bind, runOn_resolve, resolves]
    dsimp only
    rw [runOn_cast, casts]
  exact runOn_bind_of_ok _ _ _ _ _ _ run

theorem runOn_read_bind {o : ReadOperand} {target : Swizzle}
    (read : o.IsRead env.symbols.registers target) (operand : IsOperand d.line tokens rest o.listed)
    (next : Text → Decoding α) :
    runOn (readSource target >>= next) env (d.past passed (tokens ++ rest) log) =
      runOn (next o.text) env (d.past (passed ++ tokens) rest log) := by
  obtain ⟨expression, resolves, casts⟩ := read
  rw [readSource, bind_assoc, runOn_raw_bind operand, bind_assoc, runOn_bind, runOn_resolve,
    resolves]
  dsimp only
  rw [runOn_bind, runOn_cast, casts]

theorem runOn_resource_bind {base : Text} {entry : ResourceEntry} {members : List Variable}
    (buffer : IsBuffer env d.context base entry members) {selected : List Component}
    (filled : selected ≠ []) (short : selected.length ≤ 4)
    (operand : IsOperand d.line tokens rest (base ++ Component.suffix selected))
    (next : ResourceOperand → Decoding α) :
    runOn (readResource >>= next) env (d.past passed (tokens ++ rest) log) =
      runOn (next (operandOf entry selected)) env (d.past (passed ++ tokens) rest log) := by
  have register := buffer.register
  have bare := register.bare.suffix register.filled selected
  have split := splitSelector_suffix base selected register.filled filled short
  rw [readResource, bind_assoc, runOn_raw_bind operand]
  simp only [bare.splitModifiers, split, Registers.behind?, bind_assoc]
  rw [runOn_bind, runOn_get]
  simp only [Decoder.past_context, buffer.unshared, bind_assoc]
  rw [runOn_bind, runOn_registers]
  simp only [buffer.bound, pure_bind]
  rfl

theorem memberComponents_eq (start : Nat) {width : Nat} (small : width ≤ 4)
    (lanes : List Component) :
    memberComponents start width lanes =
      .ok (lanes.map fun c => Component.cyclic (min (start + c.index) (width - 1))) := by
  induction lanes with
  | nil => rfl
  | cons c rest ih =>
    have component := Swizzle.componentAt_of_lt
      (show min (start + c.index) (width - 1) < 4 by omega)
    rw [memberComponents, component, ih]
    rfl

section Member

variable {registers : Registers} {members : List Variable} {resource : ResourceOperand}
  {address : ElementAddress} {letters : List Component}

/-- The member over the first byte is accessed, if there is one. -/
theorem runOn_member_bind (element : IsElement members)
    (structured : elementMembers env.symbols.declared.structures resource = members)
    (offset : registers.IsOffset address.offset) (filled : letters ≠ []) (index : Text)
    (next : Option (Text × Text) → Decoding α) (d : Decoder) :
    runOn (memberAccess resource index address.offset letters >>= next) env d =
      runOn (next ((memberAt? members address.first).map fun found =>
        ((accessAt members address.first letters).text (elementAccess resource index),
          found.1.type))) env d := by
  have digit : Text.allDigits address.offset = true :=
    Text.allDigits_digits _ offset.filled offset.numeric
  have value : Fault.readInteger address.offset = .ok address.first :=
    Fault.readInteger_digits _ offset.filled offset.numeric offset.short
  apply runOn_bind_of_ok
  unfold memberAccess
  simp only [digit, Bool.not_true, Bool.false_eq_true, if_false, runOn_bind, runOn_read, value,
    runOn_lift, structured]
  rcases memberAt?_cases members address.first with ⟨none, _⟩ | ⟨m, known, spans, found⟩
  · rw [none]
    rfl
  simp only [found, Option.map_some]
  rcases element.scalar_or_vector known with scalar | vector
  · rw [accessAt_scalar element known spans scalar, if_pos (Nat.le_of_eq scalar)]
    simp [Access.text, elementAccess, Component.suffix]
  · obtain ⟨_, small⟩ := count_numericTypes m.type (element.numeric m known)
    have shown (pick : Component → Component) :
        Component.suffix (letters.map pick) = '.' :: Component.letters (letters.map pick) :=
      Component.suffix_of_ne_nil (by simpa using filled)
    rw [accessAt_vector element known spans vector, if_neg (Nat.not_le.mpr vector), runOn_bind,
      memberComponents_eq _ small]
    simp [Access.text, elementAccess, shown, Variable.componentNear_add spans]

end Member
end Decoding
end ShaderLift
