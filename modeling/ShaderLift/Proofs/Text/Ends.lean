import Mathlib.Data.List.DropRight
import ShaderLift.Text.Basic

namespace ShaderLift.Text

theorem mem_trimStart (c : Char) (text : Text) (visible : isBlank c = false) (inside : c ∈ text) :
    c ∈ trimStart text := by
  induction text with
  | nil => cases inside
  | cons first rest ih =>
    by_cases blank : isBlank first = true
    · have apart : c ≠ first := by
        rintro rfl
        rw [visible] at blank
        cases blank
      have later := ih ((List.mem_cons.mp inside).resolve_left apart)
      simpa [trimStart, blank] using later
    · simpa [trimStart, blank] using inside

theorem getLast?_trimStart (c : Char) (text : Text) (visible : isBlank c = false)
    (last : text.getLast? = some c) : (trimStart text).getLast? = some c := by
  have kept := mem_trimStart c text visible (List.mem_of_getLast? last)
  have whole : text.takeWhile isBlank ++ trimStart text = text := List.takeWhile_append_dropWhile
  obtain ⟨final, found⟩ := Option.ne_none_iff_exists'.mp
    (mt List.getLast?_eq_none_iff.mp (List.ne_nil_of_mem kept))
  rw [← whole, List.getLast?_append, found, Option.some_or] at last
  rw [found, last]

theorem trimStart_append (blanks text : Text) (blank : ∀ c ∈ blanks, isBlank c = true) :
    trimStart (blanks ++ text) = trimStart text := by
  simp only [trimStart, List.dropWhile_append_of_pos blank]

/-- A text of blanks only. -/
def IsGap (text : Text) : Prop := ∀ c ∈ text, isBlank c = true

namespace IsGap

theorem nil : IsGap [] := nofun

theorem trimStart_eq {gap : Text} (blank : gap.IsGap) : trimStart gap = [] :=
  List.dropWhile_eq_nil_iff.mpr blank

theorem trimEnd_eq {gap : Text} (blank : gap.IsGap) : trimEnd gap = [] := by
  have turned : gap.reverse.dropWhile isBlank = [] :=
    List.dropWhile_eq_nil_iff.mpr fun c inside => blank c (List.mem_reverse.mp inside)
  rw [trimEnd, turned, List.reverse_nil]

end IsGap

/-- A text is blank or has a first visible character. -/
theorem isGap_or_visible (text : Text) :
    text.IsGap ∨ ∃ gap c rest, IsGap gap ∧ isBlank c = false ∧ text = gap ++ c :: rest := by
  induction text with
  | nil => exact .inl .nil
  | cons c rest ih =>
    cases blank : isBlank c with
    | false => exact .inr ⟨[], c, rest, .nil, blank, rfl⟩
    | true =>
      rcases ih with gap | ⟨gap, d, tail, gaps, visible, rfl⟩
      · exact .inl (List.forall_mem_cons.mpr ⟨blank, gap⟩)
      · exact .inr ⟨c :: gap, d, tail, List.forall_mem_cons.mpr ⟨blank, gaps⟩, visible, rfl⟩

/-- Only what stands behind a visible character is taken off the end. -/
theorem trimEnd_append_visible (front rest : Text) (c : Char) (visible : isBlank c = false) :
    trimEnd (front ++ c :: rest) = front ++ c :: trimEnd rest := by
  rw [trimEnd, trimEnd, List.reverse_append, List.reverse_cons, List.append_assoc,
    List.dropWhile_append]
  split
  · rename_i gone
    rw [List.isEmpty_iff.mp gone, List.singleton_append,
      List.dropWhile_cons_of_neg (by simp [visible])]
    simp
  · simp

theorem trim_gap_append (gap rest : Text) (c : Char) (blank : gap.IsGap)
    (visible : isBlank c = false) : trim (gap ++ c :: rest) = c :: trimEnd rest := by
  have start : trimStart (c :: rest) = c :: rest :=
    List.dropWhile_cons_of_neg (by simp [visible])
  rw [trim, trimStart_append gap _ blank, start]
  exact trimEnd_append_visible [] rest c visible

theorem trimEnd_trimEnd (text : Text) : trimEnd (trimEnd text) = trimEnd text := by
  rw [trimEnd, trimEnd, List.reverse_reverse, List.dropWhile_idempotent]

theorem trim_trimEnd (text : Text) : trim (trimEnd text) = trim text := by
  rcases isGap_or_visible text with blank | ⟨gap, c, rest, blank, visible, rfl⟩
  · rw [blank.trimEnd_eq, trim, trim, blank.trimStart_eq]
    rfl
  · rw [trimEnd_append_visible gap rest c visible, trim_gap_append gap _ c blank visible,
      trim_gap_append gap _ c blank visible, trimEnd_trimEnd]

theorem trim_trim (text : Text) : trim (trim text) = trim text := by
  rcases isGap_or_visible text with blank | ⟨gap, c, rest, blank, visible, rfl⟩
  · rw [trim, trim, blank.trimStart_eq]
    rfl
  · rw [trim_gap_append gap _ c blank visible]
    have again := trim_gap_append [] (trimEnd rest) c .nil visible
    rwa [trimEnd_trimEnd] at again

theorem isGap_takeWhile (text : Text) : IsGap (text.takeWhile isBlank) :=
  fun _ => List.mem_takeWhile_imp

theorem exists_trimEnd (text : Text) : ∃ trail, IsGap trail ∧ text = trimEnd text ++ trail := by
  refine ⟨(text.reverse.takeWhile isBlank).reverse, ?_, ?_⟩
  · intro c inside
    exact isGap_takeWhile _ c (List.mem_reverse.mp inside)
  · rw [trimEnd, ← List.reverse_append, List.takeWhile_append_dropWhile, List.reverse_reverse]

theorem trimStart_of_head {text : Text} (visible : ∀ c, text.head? = some c → isBlank c = false) :
    trimStart text = text := by
  cases text with
  | nil => rfl
  | cons c rest => rw [trimStart, List.dropWhile_cons_of_neg (by simp [visible c rfl])]

/-- The blanks around a text are dropped, up to its first and last visible character. -/
theorem trim_padded {front text back : Text} (blank : ∀ c ∈ front ++ back, isBlank c = true)
    (filled : text ≠ []) (first : ∀ c, text.head? = some c → isBlank c = false)
    (last : ∀ c, text.getLast? = some c → isBlank c = false) :
    trim (front ++ (text ++ back)) = text := by
  have start : trimStart (front ++ (text ++ back)) = text ++ back := by
    rw [trimStart_append front _ fun c inside => blank c (List.mem_append_left _ inside)]
    obtain ⟨c, rest, rfl⟩ := List.exists_cons_of_ne_nil filled
    exact trimStart_of_head first
  have ending : trimStart (back.reverse ++ text.reverse) = text.reverse := by
    rw [trimStart_append]
    · exact trimStart_of_head (by simpa using last)
    · exact fun c inside => blank c (List.mem_append_right _ (List.mem_reverse.mp inside))
  rw [trim, start, trimEnd, List.reverse_append, ← trimStart, ending, List.reverse_reverse]

/-- Around what is left of a text there were blanks. -/
theorem exists_trim (text : Text) :
    ∃ front back, (∀ c ∈ front ++ back, isBlank c = true) ∧ text = front ++ (trim text ++ back) := by
  obtain ⟨back, blank, whole⟩ := exists_trimEnd (trimStart text)
  refine ⟨text.takeWhile isBlank, back, ?_, ?_⟩
  · intro c inside
    rcases List.mem_append.mp inside with early | late
    · exact isGap_takeWhile text c early
    · exact blank c late
  · rw [trim, ← whole, trimStart, List.takeWhile_append_dropWhile]

theorem mem_trim (c : Char) (text : Text) (visible : isBlank c = false) (inside : c ∈ text) :
    c ∈ trim text := by
  obtain ⟨front, back, blank, whole⟩ := exists_trim text
  have outside : c ∉ front ++ back := by
    intro member
    have contrary := blank c member
    rw [visible] at contrary
    cases contrary
  rw [List.mem_append, not_or] at outside
  rw [whole] at inside
  simpa [outside] using inside

theorem mem_times (c : Char) (count : Nat) (text : Text) (inside : c ∈ times count text) :
    c ∈ text := by
  obtain ⟨part, replicated, member⟩ := List.mem_flatten.mp inside
  rw [List.eq_of_mem_replicate replicated] at member
  exact member

theorem after?_append (start rest : Text) : after? start (start ++ rest) = some rest := by
  induction start with
  | nil => rfl
  | cons c start ih => simp [after?, ih]

theorem before?_append (front ending : Text) : before? ending (front ++ ending) = some front := by
  simp [before?, after?_append]

theorem eq_of_after? (start text rest : Text) (found : after? start text = some rest) :
    text = start ++ rest := by
  induction start generalizing text with
  | nil =>
    cases found
    rfl
  | cons a start ih =>
    cases text with
    | nil => cases found
    | cons c text =>
      simp only [after?, Option.ite_none_right_eq_some] at found
      rw [found.1, ih text found.2, List.cons_append]

theorem startsWith_iff (start text : Text) : startsWith start text = true ↔ start <+: text := by
  rw [startsWith, Option.isSome_iff_exists]
  constructor
  · rintro ⟨rest, found⟩
    exact ⟨rest, (eq_of_after? start text rest found).symm⟩
  · rintro ⟨rest, rfl⟩
    exact ⟨rest, after?_append start rest⟩

theorem eq_of_before? (ending text front : Text) (found : before? ending text = some front) :
    text = front ++ ending := by
  obtain ⟨rest, rests, rfl⟩ := Option.map_eq_some_iff.mp found
  have reversed := congrArg List.reverse (eq_of_after? _ _ _ rests)
  simpa using reversed

/-- A newline at the end is dropped, and nothing else. -/
theorem dropFinalNewline_cases (text : Text) :
    (text.getLast? ≠ some '\n' ∧ dropFinalNewline text = text) ∨
      text = dropFinalNewline text ++ ['\n'] := by
  unfold dropFinalNewline
  cases found : before? ['\n'] text with
  | some front => exact .inr (eq_of_before? _ _ _ found)
  | none =>
    refine .inl ⟨fun ends => ?_, rfl⟩
    obtain ⟨front, rfl⟩ := List.getLast?_eq_some_iff.mp ends
    rw [before?_append] at found
    cases found

theorem dropFinalNewline_isPrefix (text : Text) : dropFinalNewline text <+: text := by
  rcases dropFinalNewline_cases text with ⟨_, same⟩ | ended
  · exact ⟨[], by rw [same, List.append_nil]⟩
  · exact ⟨_, ended.symm⟩

theorem head?_dropFinalNewline {text : Text} {c : Char}
    (starts : (dropFinalNewline text).head? = some c) : text.head? = some c := by
  obtain ⟨tail, whole⟩ := dropFinalNewline_isPrefix text
  rw [← whole, List.head?_append, starts, Option.some_or]

theorem dropFinalNewline_of_getLast? {text : Text} (other : text.getLast? ≠ some '\n') :
    dropFinalNewline text = text := by
  rcases dropFinalNewline_cases text with ⟨_, same⟩ | ended
  · exact same
  · rw [ended, List.getLast?_concat] at other
    exact absurd rfl other

theorem dropFinalNewline_of_notMem (text : Text) (single : '\n' ∉ text) :
    dropFinalNewline text = text :=
  dropFinalNewline_of_getLast? fun ends => single (List.mem_of_getLast? ends)

theorem dropFinalNewline_append_cons (front rest : Text) {mark : Char} (other : mark ≠ '\n') :
    dropFinalNewline (front ++ mark :: rest) = front ++ mark :: dropFinalNewline rest := by
  rcases dropFinalNewline_cases rest with ⟨last, same⟩ | ended
  · rw [same]
    apply dropFinalNewline_of_getLast?
    rw [List.getLast?_append, List.getLast?_cons, Option.some_or]
    cases found : rest.getLast? with
    | none => simpa using other
    | some c => rwa [found] at last
  · generalize dropFinalNewline rest = line at ended ⊢
    rw [ended, ← List.cons_append, ← List.append_assoc, dropFinalNewline, before?_append]
    rfl

theorem dropFinalNewline_concat (text : Text) {mark : Char} (other : mark ≠ '\n') :
    dropFinalNewline (text ++ [mark]) = text ++ [mark] :=
  dropFinalNewline_append_cons text [] other

/-- A character of joined texts stands in a separator or in one of the texts. -/
theorem mem_or_mem_of_mem_join {separator : Text} {texts : List Text} {c : Char}
    (inside : c ∈ join separator texts) : c ∈ separator ∨ ∃ text ∈ texts, c ∈ text := by
  induction texts with
  | nil => cases inside
  | cons text rest ih =>
    cases rest with
    | nil => exact .inr ⟨text, List.mem_cons_self, inside⟩
    | cons next rest =>
      rw [join, List.mem_append, List.mem_append] at inside
      rcases inside with (front | between) | later
      · exact .inr ⟨text, List.mem_cons_self, front⟩
      · exact .inl between
      · rcases ih later with between | ⟨other, among, found⟩
        · exact .inl between
        · exact .inr ⟨other, List.mem_cons_of_mem _ among, found⟩

end ShaderLift.Text
