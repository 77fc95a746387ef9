import ShaderLift.Text.Basic

namespace ShaderLift.Text

/-- A text without blanks. -/
def IsSolid (text : Text) : Prop := ∀ c ∈ text, isBlank c = false

namespace IsSolid

theorem nil : IsSolid [] := nofun

theorem of_subset {text part : Text} (solid : text.IsSolid) (within : part ⊆ text) :
    part.IsSolid := fun c inside => solid c (within inside)

theorem concat {text : Text} {c : Char} (solid : text.IsSolid) (last : isBlank c = false) :
    IsSolid (text ++ [c]) := by
  intro d inside
  rcases List.mem_append.mp inside with early | late
  · exact solid d early
  · rw [List.mem_singleton.mp late]
    exact last

end IsSolid

/-- A word of a text: a part of it without blanks. -/
structure IsWordOf (text word : Text) : Prop where
  nonempty : word ≠ []
  solid : word.IsSolid
  within : word <:+: text

theorem IsWordOf.behind {text word : Text} (found : IsWordOf text word) (front : Text) :
    IsWordOf (front ++ text) word :=
  ⟨found.nonempty, found.solid, found.within.trans (List.suffix_append front text).isInfix⟩

theorem isWordOf_of_mem_wordsFrom (text current word : Text) (solid : current.IsSolid)
    (inside : word ∈ wordsFrom current text) : IsWordOf (current ++ text) word := by
  induction text generalizing current with
  | nil =>
    unfold wordsFrom at inside
    split at inside
    · cases inside
    · rename_i started
      rw [List.mem_singleton.mp inside]
      exact ⟨by simpa using started, solid, (List.prefix_append current []).isInfix⟩
  | cons c rest ih =>
    unfold wordsFrom at inside
    split at inside
    · have later (among : word ∈ wordsFrom [] rest) : IsWordOf (current ++ c :: rest) word := by
        have found := (ih [] .nil among).behind (current ++ [c])
        rwa [List.append_assoc] at found
      split at inside
      · exact later inside
      · rename_i started
        rcases List.mem_cons.mp inside with rfl | among
        · exact ⟨by simpa using started, solid, (List.prefix_append word _).isInfix⟩
        · exact later among
    · rename_i solidHere
      have found := ih (current ++ [c]) (solid.concat (by simpa using solidHere)) inside
      rwa [List.append_assoc] at found

theorem isWordOf_of_mem_words {text word : Text} (inside : word ∈ words text) :
    IsWordOf text word := isWordOf_of_mem_wordsFrom text [] word .nil inside

/-- The texts are free of blanks. -/
def AllSolid (texts : List Text) : Prop := ∀ text ∈ texts, text.IsSolid

theorem allSolid_words (text : Text) : AllSolid (words text) :=
  fun _ inside => (isWordOf_of_mem_words inside).solid

theorem AllSolid.getD {texts : List Text} (solid : AllSolid texts) (place : Nat) :
    (texts.getD place []).IsSolid := by
  rw [List.getD_eq_getElem?_getD]
  cases found : texts[place]? with
  | none => exact .nil
  | some text => exact solid text (List.mem_of_getElem? found)

theorem dropEnd_isPrefix (drops : Char → Bool) (text : Text) :
    (text.reverse.dropWhile drops).reverse <+: text := by
  have turned := List.reverse_prefix.mpr (List.dropWhile_suffix drops (l := text.reverse))
  rwa [List.reverse_reverse] at turned

theorem trim_isInfix (text : Text) : trim text <:+: text :=
  (dropEnd_isPrefix isBlank (trimStart text)).isInfix.trans
    (List.dropWhile_suffix isBlank).isInfix

theorem IsSolid.trimEndOf {text : Text} (solid : text.IsSolid) (c : Char) :
    (trimEndOf c text).IsSolid := solid.of_subset (dropEnd_isPrefix _ text).subset

theorem IsSolid.without {text : Text} (solid : text.IsSolid) (c : Char) :
    (without c text).IsSolid := solid.of_subset (List.filter_sublist.subset)

theorem pieces_ne_nil (separator : Char) (text : Text) : pieces separator text ≠ [] := by
  cases text with
  | nil => exact List.cons_ne_nil _ _
  | cons c rest =>
    rw [pieces]
    split
    · exact List.cons_ne_nil _ _
    · split
      · exact List.cons_ne_nil _ _
      · exact List.cons_ne_nil _ _

theorem pieces_append (separator : Char) (front back : Text) :
    pieces separator (front ++ separator :: back) =
      pieces separator front ++ pieces separator back := by
  induction front with
  | nil => simp [pieces]
  | cons c front ih =>
    rw [List.cons_append, pieces, pieces, ih]
    split
    · rfl
    · obtain ⟨piece, others, split⟩ := List.exists_cons_of_ne_nil (pieces_ne_nil separator front)
      rw [split]
      rfl

theorem pieces_of_not_mem {separator : Char} {text : Text} (plain : separator ∉ text) :
    pieces separator text = [text] := by
  induction text with
  | nil => rfl
  | cons c text ih =>
    rw [List.mem_cons, not_or] at plain
    rw [pieces, if_neg (Ne.symm plain.1), ih plain.2]

end ShaderLift.Text
