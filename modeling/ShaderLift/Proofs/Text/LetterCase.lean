import ShaderLift.Declaration.Signature
import ShaderLift.Proofs.Text.Words

namespace ShaderLift.Text

variable {c t : Char} {text : Text}

/-- No run of letters with a letter case leads to a code point. -/
def missedByRuns (runs : CaseRuns) (target : Nat) : Bool :=
  runs.all fun run => !((run.1 : Int) ≤ target - run.2.2.2 && target - run.2.2.2 ≤ (run.2.1 : Int))

/-- No sequence of letters holds a code point. -/
def missedBySequences (sequences : List (Nat × List Nat)) (target : Nat) : Bool :=
  sequences.all fun entry => !entry.2.contains target

theorem toNat_of_ofNat_eq {code : Nat} (visible : t.toNat ≠ 0) (same : Char.ofNat code = t) :
    code = t.toNat := by
  by_cases valid : code.isValidChar
  · have made : Char.ofNat code = Char.ofNatAux code valid := dif_pos valid
    rw [← same, made]
    rfl
  · have zero : (Char.ofNat code).toNat = 0 := congrArg Char.toNat (dif_neg valid)
    rw [same] at zero
    exact absurd zero visible

theorem shiftCase_ne {runs : CaseRuns} (visible : t.toNat ≠ 0)
    (missed : missedByRuns runs t.toNat = true) (other : c ≠ t) : shiftCase runs c ≠ t := by
  intro reached
  unfold shiftCase at reached
  dsimp only at reached
  split at reached
  · rename_i first last step distance found
    have within := List.find?_some found
    have apart := List.all_eq_true.mp missed _ (List.mem_of_find?_eq_some found)
    have code := toNat_of_ofNat_eq visible reached
    simp only [Bool.and_eq_true, decide_eq_true_eq, Bool.not_eq_true', Bool.and_eq_false_iff,
      decide_eq_false_iff_not] at within apart
    omega
  · exact other reached

theorem notMem_ofCodes {codes : List Nat} (visible : t.toNat ≠ 0) (missed : t.toNat ∉ codes) :
    t ∉ codes.map Char.ofNat := by
  intro inside
  obtain ⟨code, among, same⟩ := List.mem_map.mp inside
  rw [toNat_of_ofNat_eq visible same] at among
  exact missed among

theorem notMem_of_lookup {sequences : List (Nat × List Nat)} {key : Nat} {codes : List Nat}
    (visible : t.toNat ≠ 0) (missed : missedBySequences sequences t.toNat = true)
    (found : sequences.lookup key = some codes) : t ∉ codes.map Char.ofNat := by
  obtain ⟨front, back, split, _⟩ := List.lookup_eq_some_iff.mp found
  have apart := List.all_eq_true.mp missed (key, codes) (by rw [split]; simp)
  exact notMem_ofCodes visible (by simpa using apart)

/-- A character that only small or large forms of itself lead to. -/
theorem notMem_upperChar (visible : t.toNat ≠ 0) (runs : missedByRuns upperRuns t.toNat = true)
    (sequences : missedBySequences upperSequences t.toNat = true)
    (plain : c.toNat < 0x80 → c.toUpper ≠ t) (other : ¬c.toNat < 0x80 → c ≠ t) :
    t ∉ upperChar c := by
  unfold upperChar
  split
  · rename_i small
    simpa using (plain small).symm
  · rename_i large
    split
    · rename_i codes found
      exact notMem_of_lookup visible sequences found
    · simpa using (shiftCase_ne visible runs (other large)).symm

theorem notMem_lowerChar (visible : t.toNat ≠ 0) (runs : missedByRuns lowerRuns t.toNat = true)
    (sequences : missedBySequences lowerSequences t.toNat = true)
    (plain : c.toNat < 0x80 → c.toLower ≠ t) (other : c ≠ t) : t ∉ lowerChar c := by
  unfold lowerChar
  split
  · rename_i small
    simpa using (plain small).symm
  · split
    · rename_i codes found
      exact notMem_of_lookup visible sequences found
    · simpa using (shiftCase_ne visible runs other).symm

theorem of_codes (holds : Char → Prop) (each : ∀ code < 0x80, holds (Char.ofNat code))
    (small : c.toNat < 0x80) : holds c := by
  have reached := each c.toNat small
  rwa [Char.ofNat_toNat] at reached

theorem toUpper_ne_blank (other : c ≠ ' ') (small : c.toNat < 0x80) :
    c.toUpper ≠ ' ' :=
  of_codes (fun c => c ≠ ' ' → c.toUpper ≠ ' ') (by decide) small other

theorem toLower_ne_blank (other : c ≠ ' ') (small : c.toNat < 0x80) :
    c.toLower ≠ ' ' :=
  of_codes (fun c => c ≠ ' ' → c.toLower ≠ ' ') (by decide) small other

theorem toUpper_ne_small (small : c.toNat < 0x80) : c.toUpper ≠ 'i' :=
  of_codes (fun c => c.toUpper ≠ 'i') (by decide) small

theorem blank_notMem_upper (solid : ' ' ∉ text) : ' ' ∉ upper text := by
  intro inside
  obtain ⟨c, among, made⟩ := List.mem_flatMap.mp inside
  have other : c ≠ ' ' := fun same => solid (same ▸ among)
  exact notMem_upperChar (by decide) (by decide) (by decide) (toUpper_ne_blank other)
    (fun _ => other) made

theorem blank_notMem_lowerFrom (front : Text) (solid : ' ' ∉ text) :
    ' ' ∉ lowerFrom front text := by
  induction text generalizing front with
  | nil => exact List.not_mem_nil
  | cons c rest ih =>
    have other : c ≠ ' ' := fun same => solid (same ▸ List.mem_cons_self)
    intro inside
    rw [lowerFrom] at inside
    rcases List.mem_append.mp inside with here | later
    · split at here
      · rw [List.mem_singleton] at here
        revert here
        decide
      · exact notMem_lowerChar (by decide) (by decide) (by decide) (toLower_ne_blank other) other here
    · exact ih (c :: front) (fun among => solid (List.mem_cons_of_mem c among)) later

theorem small_notMem_upperChar (c : Char) : 'i' ∉ upperChar c := by
  apply notMem_upperChar (by decide) (by decide) (by decide) toUpper_ne_small
  rintro large rfl
  exact large (by decide)

theorem upperChar_ne_nil (c : Char) : upperChar c ≠ [] := by
  have sequences : upperSequences.all (!·.2.isEmpty) = true := by decide
  unfold upperChar
  split
  · exact List.cons_ne_nil _ _
  · split
    · rename_i codes found
      obtain ⟨front, back, split, _⟩ := List.lookup_eq_some_iff.mp found
      have some := List.all_eq_true.mp sequences (c.toNat, codes) (by rw [split]; simp)
      simpa using some
    · exact List.cons_ne_nil _ _

/-- The name of a semantic has no blank. -/
theorem blank_notMem_semanticName {semantic : Text} (solid : semantic.IsSolid) :
    ' ' ∉ semanticName semantic := by
  have bare : ' ' ∉ semantic := by
    intro inside
    cases solid ' ' inside
  have parts {text : Text} (within : text ⊆ semantic) (count : Nat) :
      ' ' ∉ upper (text.take count) ++ lower (text.drop count) := by
    rw [List.mem_append, not_or]
    constructor
    · exact blank_notMem_upper fun inside => bare (within (List.mem_of_mem_take inside))
    · exact blank_notMem_lowerFrom [] fun inside => bare (within (List.mem_of_mem_drop inside))
  unfold semanticName
  dsimp only
  split
  · exact parts (List.drop_subset 3 semantic) 1
  · exact parts (List.Subset.refl semantic) 1

/-- The name of a semantic does not start with a small letter. -/
theorem head?_semanticName (semantic : Text) : (semanticName semantic).head? ≠ some 'i' := by
  have parts (text : Text) : (upper (text.take 1) ++ lower (text.drop 1)).head? ≠ some 'i' := by
    cases text with
    | nil => exact nofun
    | cons c rest =>
      obtain ⟨first, others, made⟩ := List.exists_cons_of_ne_nil (upperChar_ne_nil c)
      have missed := small_notMem_upperChar c
      rw [made] at missed
      have start : upper ((c :: rest).take 1) = first :: others := by
        rw [← made]
        exact List.append_nil _
      rw [start, List.cons_append, List.head?_cons]
      intro same
      rw [Option.some.inj same] at missed
      exact missed List.mem_cons_self
  exact parts _

end ShaderLift.Text
