import ShaderLift.Proofs.Constant.Leaf
import ShaderLift.Proofs.Register.Constant

namespace ShaderLift

theorem Variable.columns_pos (v : Variable) : 1 ≤ v.registerLayout.columns := by
  have counted := (ElementType.count_bounds v.type).1
  unfold registerLayout
  dsimp only
  split
  · dsimp only
    omega
  · split
    · rename_i large
      simp only [Bool.and_eq_true, decide_eq_true_eq] at large
      split <;> dsimp only <;> omega
    · dsimp only
      omega

theorem Variable.HasElement.columns_pos {structures : List Structure} {place : Int} {path : Text}
    {v : Variable} {e : Element} (has : v.HasElement structures place path e) : 1 ≤ e.columns := by
  induction has with
  | @leaf place path base v => exact v.columns_pos
  | member _ _ _ _ _ _ ih => exact ih

theorem find?_of_unique {α : Type} {p : α → Bool} {values : List α} {value : α}
    (inside : value ∈ values) (holds : p value = true)
    (unique : ∀ other ∈ values, p other = true → other = value) : values.find? p = some value := by
  cases found : values.find? p with
  | none => exact absurd holds (List.find?_eq_none.mp found value inside)
  | some other => rw [unique other (List.mem_of_find?_eq_some found) (List.find?_some found)]

namespace Element

theorem mem_occupied_iff (e : Element) (c : Component) :
    c ∈ e.occupied ↔ e.component ≤ c.index ∧ c.index < e.component + e.columns :=
  Component.mem_take_drop_all e.component e.columns c

/-- The operand that selects components of the register of an element. -/
def operand (bind : Int) (e : Element) (selected : List Component) : Text :=
  constantText bind e.slot ++ Component.suffix selected

/-- The selector behind an element for components of its register: the components counted from the
first one in use. The very components of an element that does not start with the first of its
register need none. -/
def selector (e : Element) (selected : List Component) : Text :=
  if e.component ≠ 0 ∧ selected = e.occupied then []
  else Component.suffix (selected.map fun c => Component.cyclic (c.index - e.component))

theorem key_placement (bind : Int) (e : Element) :
    (e.placement bind).key = constantText bind e.slot ++ e.entry.swizzle := rfl

/-- Two elements with the same components behind their registers share a component. -/
theorem exists_shared {e e' : Element} (used : 1 ≤ e.columns) (used' : 1 ≤ e'.columns)
    (whole : e.component + e.columns ≤ 4) (same : e.entry.swizzle = e'.entry.swizzle) :
    ∃ c, c ∈ e.occupied ∧ c ∈ e'.occupied := by
  simp only [entry] at same
  by_cases start : e.component = 0
  · by_cases start' : e'.component = 0
    · refine ⟨.x, ?_, ?_⟩
      · rw [mem_occupied_iff, start]
        exact ⟨Nat.le_refl 0, by rw [Nat.zero_add]; exact used⟩
      · rw [mem_occupied_iff, start']
        exact ⟨Nat.le_refl 0, by rw [Nat.zero_add]; exact used'⟩
    · rw [if_pos start, if_neg start'] at same
      cases same
  · by_cases start' : e'.component = 0
    · rw [if_neg start, if_pos start'] at same
      cases same
    · rw [if_neg start, if_neg start'] at same
      have equal := Component.letters_inj (List.cons.inj same).2
      obtain ⟨c, place⟩ : ∃ c : Component, c.index = e.component :=
        ⟨Component.cyclic e.component, Component.index_cyclic (by omega)⟩
      have inside : c ∈ e.occupied := (mem_occupied_iff e c).mpr (by omega)
      exact ⟨c, inside, equal ▸ inside⟩

/-- Only the components of an element that does not start with the first of its register are written
behind its register. -/
theorem eq_occupied_of_swizzle {e : Element} {selected : List Component} (filled : selected ≠ [])
    (same : e.entry.swizzle = Component.suffix selected) :
    e.component ≠ 0 ∧ selected = e.occupied := by
  rw [Component.suffix_of_ne_nil filled] at same
  simp only [entry] at same
  split at same
  · cases same
  · rename_i start
    exact ⟨start, (Component.letters_inj (List.cons.inj same).2).symm⟩

/-- A selection on an element is counted from its first component. -/
theorem constantSelector_entry (e : Element) (selected : List Component)
    (within : ∀ c ∈ selected, c ∈ e.occupied) :
    Registers.constantSelector e.entry selected =
      Component.suffix (selected.map fun c => Component.cyclic (c.index - e.component)) := by
  unfold Registers.constantSelector
  dsimp only
  congr 1
  apply List.map_congr_left
  intro c inside
  obtain ⟨low, high⟩ := (mem_occupied_iff e c).mp (within c inside)
  exact congrArg Component.cyclic (Registers.place_in_field low high)

end Element

/-- The entry over a component is the one of a register, if no other one there covers it. -/
theorem Registers.constantOver?_of_only {tables : ConstantTables} {bind slot : Int} {p : Placement}
    (among : p ∈ tables.placements) (bound : p.bind = bind) (placed : p.slot = slot) {c : Component}
    (rest : List Component) (covers : p.entry.componentOffset ≤ c.index ∧
      c.index < p.entry.componentOffset + p.entry.elementCount)
    (only : ∀ q ∈ tables.placements, q.bind = bind → q.slot = slot →
      q.entry.componentOffset ≤ c.index ∧ c.index < q.entry.componentOffset + q.entry.elementCount →
      q.entry = p.entry) :
    constantOver? (tables.entriesAt bind slot) (c :: rest) = some p.entry := by
  have found : ((tables.entriesAt bind slot).find? fun entry =>
      entry.componentOffset ≤ c.index && c.index < entry.componentOffset + entry.elementCount) =
        some p.entry := by
    apply find?_of_unique
    · exact List.mem_map.mpr ⟨p, List.mem_filter.mpr ⟨among, by simp [bound, placed]⟩, rfl⟩
    · simpa using covers
    · intro entry inside covering
      obtain ⟨q, listed, rfl⟩ := List.mem_map.mp inside
      obtain ⟨among, place⟩ := List.mem_filter.mp listed
      rw [Bool.and_eq_true] at place
      exact only q among (of_decide_eq_true place.1) (of_decide_eq_true place.2)
        (by simpa using covering)
  unfold constantOver?
  dsimp only
  rw [found]
  rfl

namespace Declarations

variable {d : Declarations}

/-- Constants that lie in registers as they should: no buffer or element has a negative place,
arrays and matrices start with the first component of a register, no element crosses a register, and
no two elements at the register of one buffer share a component. -/
structure IsLaidOut (d : Declarations) : Prop where
  bound : ∀ bind e, d.HasElement bind e → 0 ≤ bind
  placed : ∀ bind e, d.HasElement bind e → 0 ≤ e.address
  aligned : ∀ bind e, d.HasElement bind e → e.IsAligned
  whole : ∀ bind e, d.HasElement bind e → e.component + e.columns ≤ 4
  disjoint : ∀ bind e e', d.HasElement bind e → d.HasElement bind e' → e.slot = e'.slot →
    ∀ c, c ∈ e.occupied → c ∈ e'.occupied → e = e'

theorem HasElement.columns_pos {bind : Int} {e : Element} (has : d.HasElement bind e) :
    1 ≤ e.columns := by
  obtain ⟨_, _, _, _, _, has⟩ := has
  exact has.columns_pos

namespace IsLaidOut

variable {bind bind' : Int} {e e' : Element}

/-- The numbers in the register of an element are natural ones. -/
theorem exists_nat (laid : d.IsLaidOut) (has : d.HasElement bind e) :
    ∃ b s : Nat, bind = b ∧ e.slot = s := by
  have low := laid.placed bind e has
  have slot : 0 ≤ e.slot := Int.ediv_nonneg low (by decide)
  exact ⟨bind.toNat, e.slot.toNat, (Int.toNat_of_nonneg (laid.bound bind e has)).symm,
    (Int.toNat_of_nonneg slot).symm⟩

/-- Elements are told apart by the text of their register with the components behind it. -/
theorem eq_of_text (laid : d.IsLaidOut) (has : d.HasElement bind e) (has' : d.HasElement bind' e')
    {tail tail' : Text}
    (same : constantText bind' e'.slot ++ tail' = constantText bind e.slot ++ tail)
    (shared : tail' = tail → ∃ c, c ∈ e'.occupied ∧ c ∈ e.occupied) : bind' = bind ∧ e' = e := by
  obtain ⟨b, s, rfl, slot⟩ := laid.exists_nat has
  obtain ⟨b', s', rfl, slot'⟩ := laid.exists_nat has'
  rw [slot, slot'] at same
  obtain ⟨rfl, rfl, tails⟩ := constantText_inj same
  obtain ⟨c, inside', inside⟩ := shared tails
  exact ⟨rfl, laid.disjoint _ e' e has' has (slot'.trans slot.symm) c inside' inside⟩

theorem eq_of_key (laid : d.IsLaidOut) (has : d.HasElement bind e) (has' : d.HasElement bind' e')
    (same : (e'.placement bind').key = (e.placement bind).key) : bind' = bind ∧ e' = e :=
  laid.eq_of_text has has' same fun swizzles =>
    Element.exists_shared has'.columns_pos has.columns_pos (laid.whole bind' e' has') swizzles

/-- The entry of an element is the only one under its key. -/
theorem get?_key (laid : d.IsLaidOut) (returns : d.resolve.fault = none)
    (has : d.HasElement bind e) :
    d.resolve.registers.constants.registers.get? (e.placement bind).key = some e.entry := by
  have elements := mem_placements_iff returns laid.aligned
  rw [registers_resolve returns]
  apply Table.get?_ofFirsts_of_unique
  · exact List.mem_map.mpr ⟨e.placement bind, (elements _).mpr ⟨bind, e, has, rfl⟩, rfl⟩
  · intro other inside
    obtain ⟨p, among, same⟩ := List.mem_map.mp inside
    obtain ⟨bind', e', has', rfl⟩ := (elements p).mp among
    obtain ⟨key, rfl⟩ := Prod.mk.inj same
    obtain ⟨rfl, rfl⟩ := laid.eq_of_key has has' key
    rfl

variable (laid : d.IsLaidOut) (returns : d.resolve.fault = none) (has : d.HasElement bind e)
  (selected : List Component) (filled : selected ≠ [])

include laid returns has filled

/-- No entry is listed for a selection on an element, unless it is the element's own. -/
theorem get?_operand (within : ∀ c ∈ selected, c ∈ e.occupied)
    (other : ¬ (e.component ≠ 0 ∧ selected = e.occupied)) :
    d.resolve.registers.constants.registers.get? (e.operand bind selected) = none := by
  have elements := mem_placements_iff returns laid.aligned
  rw [registers_resolve returns]
  apply Table.get?_ofFirsts_eq_none
  intro entry inside
  obtain ⟨p, among, same⟩ := List.mem_map.mp inside
  obtain ⟨bind', e', has', rfl⟩ := (elements p).mp among
  have key : constantText bind' e'.slot ++ e'.entry.swizzle =
      constantText bind e.slot ++ Component.suffix selected := (Prod.mk.inj same).1
  have shared (swizzle : e'.entry.swizzle = Component.suffix selected) :
      ∃ c, c ∈ e'.occupied ∧ c ∈ e.occupied := by
    obtain ⟨_, own⟩ := Element.eq_occupied_of_swizzle filled swizzle
    obtain ⟨c, inside⟩ := List.exists_mem_of_ne_nil selected filled
    exact ⟨c, own ▸ inside, within c inside⟩
  obtain ⟨rfl, rfl⟩ := laid.eq_of_text has has' key shared
  exact other (Element.eq_occupied_of_swizzle filled (List.append_cancel_left key))

/-- The entry over a selected component of an element is the element's. -/
theorem constantOver?_entriesAt (within : ∀ c ∈ selected, c ∈ e.occupied) :
    Registers.constantOver? (d.resolve.registers.constants.entriesAt bind e.slot) selected =
      some e.entry := by
  have elements := mem_placements_iff returns laid.aligned
  obtain ⟨c, rest, rfl⟩ := List.exists_cons_of_ne_nil filled
  have here := within c (List.mem_cons_self ..)
  refine Registers.constantOver?_of_only ((elements _).mpr ⟨bind, e, has, rfl⟩) rfl rfl rest
    ((Element.mem_occupied_iff e c).mp here) ?_
  intro q among bound slot covers
  obtain ⟨bind', e', has', rfl⟩ := (elements q).mp among
  have bound : bind' = bind := bound
  subst bound
  rw [laid.disjoint _ e' e has' has slot c ((Element.mem_occupied_iff e' c).mpr covers) here]

theorem findConstant?_operand
    (short : selected.length ≤ 4) (within : ∀ c ∈ selected, c ∈ e.occupied) :
    Registers.findConstant? d.resolve.registers.constants (e.operand bind selected) =
      .ok (some (e.path ++ e.selector selected)) := by
  unfold Element.selector
  by_cases own : e.component ≠ 0 ∧ selected = e.occupied
  · have key : e.operand bind selected = (e.placement bind).key := by
      rw [Element.operand, Element.key_placement, Component.suffix_of_ne_nil filled, own.2]
      simp only [Element.entry, if_neg own.1]
    unfold Registers.findConstant?
    rw [key, laid.get?_key returns has, if_pos own, List.append_nil]
    rfl
  · have unlisted := laid.get?_operand returns has selected filled within own
    have chosen := laid.constantOver?_entriesAt returns has selected filled within
    obtain ⟨bindWritable, slotWritable⟩ := isWritable_of_resolve returns bind e has
    obtain ⟨b, s, rfl, slot⟩ := laid.exists_nat has
    simp only [Text.isWritable, decide_eq_true_eq, slot, Int.natAbs_natCast]
      at bindWritable slotWritable
    unfold Element.operand at unlisted ⊢
    rw [slot] at unlisted chosen ⊢
    rw [Registers.findConstant?_constantText b s bindWritable slotWritable selected filled short
      unlisted, chosen, if_neg own]
    simp only [Option.map_some, Element.expression_entry, e.constantSelector_entry selected within]

end IsLaidOut

/-- Constants are resolved to their addresses. Every element of the buffers has an entry of its own,
under a text that stands for no other element. A selection of its components on the register it lies
in leads to its access path, with the components counted from its first one. -/
theorem constants_at_addresses (d : Declarations) (laid : d.IsLaidOut) :
    (d.IsResolvable → d.resolve.fault = none) ∧
    (d.resolve.fault = none → ∀ bind e, d.HasElement bind e →
      d.resolve.registers.constants.registers.get? (e.placement bind).key = some e.entry ∧
      (∀ bind' e', d.HasElement bind' e' → (e'.placement bind').key = (e.placement bind).key →
        bind' = bind ∧ e' = e) ∧
      ∀ selected : List Component, selected ≠ [] → selected.length ≤ 4 →
        (∀ c ∈ selected, c ∈ e.occupied) →
        Registers.findConstant? d.resolve.registers.constants (e.operand bind selected) =
          .ok (some (e.path ++ e.selector selected))) := by
  refine ⟨fun resolvable => resolvable.fault_eq_none, ?_⟩
  intro returns bind e has
  refine ⟨laid.get?_key returns has, ?_, ?_⟩
  · intro bind' e' has' same
    exact laid.eq_of_key has has' same
  · intro selected filled short within
    exact laid.findConstant?_operand returns has selected filled short within

/-- A register with a vector and a scalar. -/
def light : Structure :=
  ⟨"Light", [⟨"float3", "direction", 0, 0, .default⟩, ⟨"float", "power", 12, 0, .default⟩]⟩

/-- A buffer of two lights. -/
def twoLights : Declarations :=
  { buffers := [⟨"Scene", 0, 32, [⟨"Light", "lights[2]", 0, 32, .default⟩]⟩]
    structures := [light] }

def twoLightsElements : List Element :=
  [⟨"lights[0].direction", [], "float3", 0, 3⟩, ⟨"lights[0].power", [], "float", 12, 1⟩,
    ⟨"lights[1].direction", [], "float3", 16, 3⟩, ⟨"lights[1].power", [], "float", 28, 1⟩]

theorem hasElement_twoLights (bind : Int) (e : Element) (has : twoLights.HasElement bind e) :
    bind = 0 ∧ e ∈ twoLightsElements := by
  have spaced : light.HasStride twoLights.structures 16 := light.stride_hasStride 6 16 rfl
  have array : splitArrayName "lights[2]" = .ok ("lights", [2]) := rfl
  have vector : splitArrayName "direction" = .ok ("direction", []) := rfl
  have scalar : splitArrayName "power" = .ok ("power", []) := rfl
  obtain ⟨buffer, inside, rfl, v, member, has⟩ := has
  obtain rfl := List.mem_singleton.mp inside
  obtain rfl := List.mem_singleton.mp member
  obtain ⟨position, small, m, among, below⟩ :=
    (Variable.hasElement_structure_iff 0 [] array rfl spaced e).mp has
  have place : position = 0 ∨ position = 1 := by
    have two : position < 2 := small
    omega
  refine ⟨rfl, ?_⟩
  rcases List.mem_cons.mp among with rfl | among
  · obtain ⟨first, single, rfl⟩ := (Variable.hasElement_leaf_iff _ _ vector rfl e).mp below
    obtain rfl : first = 0 := Nat.lt_one_iff.mp single
    rcases place with rfl | rfl <;> decide
  · obtain rfl := List.mem_singleton.mp among
    obtain ⟨first, single, rfl⟩ := (Variable.hasElement_leaf_iff _ _ scalar rfl e).mp below
    obtain rfl : first = 0 := Nat.lt_one_iff.mp single
    rcases place with rfl | rfl <;> decide

theorem isLaidOut_twoLights : twoLights.IsLaidOut := by
  have each : ∀ e ∈ twoLightsElements, 0 ≤ e.address ∧ e.indices = [] ∧
      e.component + e.columns ≤ 4 := by decide
  have apart : ∀ e ∈ twoLightsElements, ∀ e' ∈ twoLightsElements, e.slot = e'.slot →
      ∀ c ∈ e.occupied, c ∈ e'.occupied → e = e' := by decide
  have listed := hasElement_twoLights
  refine ⟨?_, ?_, ?_, ?_, ?_⟩
  · intro bind e has
    exact Int.le_of_eq (listed bind e has).1.symm
  · intro bind e has
    exact (each e (listed bind e has).2).1
  · intro bind e has indexed
    exact absurd (each e (listed bind e has).2).2.1 indexed
  · intro bind e has
    exact (each e (listed bind e has).2).2.2
  · intro bind e e' has has' slot c inside inside'
    exact apart e (listed bind e has).2 e' (listed bind e' has').2 slot c inside inside'

theorem isResolvable_twoLights : twoLights.IsResolvable := by
  have each : ∀ e ∈ twoLightsElements, 0 ≤ e.slot ∧ e.slot < 10 := by decide
  refine ⟨by decide, by decide, ?_⟩
  intro bind e has
  obtain ⟨rfl, inside⟩ := hasElement_twoLights bind e has
  obtain ⟨low, high⟩ := each e inside
  exact ⟨Text.isWritable_of_lt 0 (by decide) (by decide), Text.isWritable_of_lt _ low high⟩

theorem constants_at_addresses_twoLights :
    twoLights.IsLaidOut ∧ twoLights.IsResolvable ∧ twoLights.resolve.fault = none ∧
      twoLights.HasElement 0 ⟨"lights[1].power", [], "float", 28, 1⟩ ∧
      Registers.findConstant? twoLights.resolve.registers.constants "cb0[1].ww" =
        .ok (some "lights[1].power.xx") := by
  have spaced : light.HasStride twoLights.structures 16 := light.stride_hasStride 6 16 rfl
  have array : splitArrayName "lights[2]" = .ok ("lights", [2]) := rfl
  have scalar : splitArrayName "power" = .ok ("power", []) := rfl
  have power : Variable.HasElement twoLights.structures 28 "lights[1]."
      ⟨"float", "power", 12, 0, .default⟩ ⟨"lights[1].power", [], "float", 28, 1⟩ :=
    (Variable.hasElement_leaf_iff _ _ scalar rfl _).mpr ⟨0, by decide, by decide⟩
  have lights : Variable.HasElement twoLights.structures 0 []
      ⟨"Light", "lights[2]", 0, 32, .default⟩ ⟨"lights[1].power", [], "float", 28, 1⟩ := by
    rw [Variable.hasElement_structure_iff 0 [] array rfl spaced]
    exact ⟨1, by decide, ⟨"float", "power", 12, 0, .default⟩, by decide, power⟩
  have has : twoLights.HasElement 0 ⟨"lights[1].power", [], "float", 28, 1⟩ :=
    ⟨_, List.mem_singleton_self _, rfl, _, List.mem_singleton_self _, lights⟩
  obtain ⟨resolves, found⟩ := constants_at_addresses twoLights isLaidOut_twoLights
  have returns := resolves isResolvable_twoLights
  obtain ⟨_, _, selected⟩ := found returns 0 _ has
  refine ⟨isLaidOut_twoLights, isResolvable_twoLights, returns, has, ?_⟩
  exact selected [.w, .w] (by decide) (by decide) (by decide)

end Declarations
end ShaderLift
