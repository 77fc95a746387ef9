import ShaderLift.Header.Scan
import ShaderLift.Proofs.Header.Stepping
import ShaderLift.Proofs.Text.Spelled

namespace ShaderLift

open Stepping

namespace Section

variable {text : Text}

/-- A title consists of letters and blanks and one of three endings. -/
theorem exists_ending_of_titleBefore? {ending title : Text}
    (found : titleBefore? ending text = some title) :
    ∃ front, text = front ++ ending ∧ ∀ c ∈ front, c.isAlpha = true ∨ Text.isBlank c = true := by
  obtain ⟨front, ends, tested⟩ := Option.bind_eq_some_iff.mp found
  obtain ⟨trail, blank, whole⟩ := Text.exists_trimEnd front
  refine ⟨front, Text.eq_of_before? ending text front ends, ?_⟩
  simp only [Option.ite_none_right_eq_some] at tested
  intro c inside
  rw [whole] at inside
  rcases List.mem_append.mp inside with kept | trailing
  · have letter := List.all_eq_true.mp tested.1 c kept
    rcases Bool.or_eq_true_iff.mp letter with alpha | space
    · exact .inl alpha
    · rw [eq_of_beq space]
      exact .inr rfl
  · exact .inr (blank c trailing)

theorem exists_ending_of_ofTitle? {opened : Section} (found : ofTitle? text = some opened) :
    ∃ front, ∃ ending ∈ (["Definitions:", "Bindings:", "signature:"] : List Text),
      Text.trim text = front ++ ending ∧
        ∀ c ∈ front, c.isAlpha = true ∨ Text.isBlank c = true := by
  have exists_front (ending : Text) (some : (titleBefore? ending (Text.trim text)).isSome = true) :
      ∃ front, Text.trim text = front ++ ending ∧
        ∀ c ∈ front, c.isAlpha = true ∨ Text.isBlank c = true := by
    obtain ⟨title, ends⟩ := Option.isSome_iff_exists.mp some
    exact exists_ending_of_titleBefore? ends
  unfold ofTitle? at found
  dsimp only at found
  split at found
  · rename_i some
    obtain ⟨front, whole⟩ := exists_front _ some
    exact ⟨front, _, by simp, whole⟩
  split at found
  · rename_i some
    obtain ⟨front, whole⟩ := exists_front _ some
    exact ⟨front, _, by simp, whole⟩
  · have some := Option.isSome_of_eq_some found
    rw [Option.isSome_map] at some
    obtain ⟨front, whole⟩ := exists_front _ some
    exact ⟨front, _, by simp, whole⟩

/-- A line with a character that no title has opens no section. -/
theorem ofTitle?_eq_none_of_mem {c : Char} (inside : c ∈ text) (visible : Text.isBlank c = false)
    (other : c.isAlpha = false) (noColon : c ≠ ':') :
    ofTitle? text = none := by
  cases found : ofTitle? text with
  | none => rfl
  | some opened =>
    obtain ⟨front, ending, known, whole, letters⟩ := exists_ending_of_ofTitle? found
    have kept := Text.mem_trim c text visible inside
    rw [whole] at kept
    rcases List.mem_append.mp kept with early | late
    · rcases letters c early with alpha | blank
      · rw [other] at alpha
        cases alpha
      · rw [visible] at blank
        cases blank
    · have shape : ∀ ending ∈ (["Definitions:", "Bindings:", "signature:"] : List Text),
          ending.all (fun c => c.isAlpha || c == ':') = true := by decide
      have letter := List.all_eq_true.mp (shape ending known) c late
      rw [other, Bool.false_or, beq_iff_eq] at letter
      exact absurd letter noColon

/-- A line without a colon opens no section. -/
theorem ofTitle?_eq_none_of_not_mem (absent : ':' ∉ text) : ofTitle? text = none := by
  cases found : ofTitle? text with
  | none => rfl
  | some opened =>
    obtain ⟨front, ending, known, whole, _⟩ := exists_ending_of_ofTitle? found
    have shape : ∀ ending ∈ (["Definitions:", "Bindings:", "signature:"] : List Text),
        ':' ∈ ending := by decide
    have inside : ':' ∈ Text.trim text := by
      rw [whole]
      exact List.mem_append_right front (shape ending known)
    exact absurd ((Text.trim_isInfix text).subset inside) absent

end Section

namespace Scan

variable {inside line : Text} {s : Scan}

/-- A comment line: blanks, the comment mark and the text behind it. -/
def Comments (inside line : Text) : Prop := ∃ lead : Text, lead.IsGap ∧ line = lead ++ "//" ++ inside

theorem isIgnored_eq_false_iff (body : Text) :
    isIgnored body = false ↔
      body ≠ [] ∧ '=' ∉ body ∧ body.head? ≠ some '-' ∧ ¬ ("Name " : Text) <+: body := by
  rw [← Text.startsWith_iff]
  simp [isIgnored, and_assoc]

theorem after?_trim (comment : Comments inside line) :
    Text.after? "//" (Text.trim line) = some (Text.trimEnd inside) := by
  obtain ⟨lead, blank, rfl⟩ := comment
  have shape : lead ++ "//" ++ inside = lead ++ '/' :: '/' :: inside := by simp
  rw [shape, Text.trim_gap_append lead _ '/' blank (by decide)]
  have rest := Text.trimEnd_append_visible [] inside '/' (by decide)
  rw [List.nil_append, List.nil_append] at rest
  rw [rest]
  exact Text.after?_append "//" _

theorem feed_ignored (comment : Comments inside line)
    (ignored : isIgnored (Text.trim inside) = true) (number : Int) (s : Scan) :
    runFrom (feed line number) s = (.ok (), s) := by
  simp only [feed, after?_trim comment, Text.trim_trimEnd, ignored, if_true]
  rfl

theorem feed_declaration (comment : Comments inside line)
    (read : isIgnored (Text.trim inside) = false)
    (noTitle : Section.ofTitle? (Text.trim inside) = none) (number : Int) :
    feed line number = readDeclaration (Text.trim inside) number := by
  simp only [feed, after?_trim comment, Text.trim_trimEnd, read, noTitle]
  rfl

theorem runFrom_closeBuffer (closed : s.openBuffer = none) :
    runFrom closeBuffer s = (.ok (), s) := by
  rw [closeBuffer, runFrom_bind_of_ok (runFrom_get s), closed]
  rfl

theorem feed_title {opened : Section} (comment : Comments inside line)
    (read : isIgnored (Text.trim inside) = false)
    (title : Section.ofTitle? (Text.trim inside) = some opened) (closed : s.openBuffer = none)
    (number : Int) :
    runFrom (feed line number) s =
      (.ok (), { s with
        log := s.log ++ [.sectionOpened opened number]
        openSection := some opened }) := by
  simp only [feed, after?_trim comment, Text.trim_trimEnd, read, title]
  show runFrom (closeBuffer >>= fun _ => _) s = _
  rw [runFrom_bind_of_ok (runFrom_closeBuffer closed)]
  rfl

/-- A line is read unless its first word or an equals sign rules it out. -/
theorem isIgnored_eq_false_of_leads {word body : Text} (leads : Text.Leads word body)
    (isWord : word.IsWord) (noEqual : '=' ∉ body) (noRuler : word.head? ≠ some '-')
    (noTitle : word ≠ "Name") : isIgnored body = false := by
  rw [isIgnored_eq_false_iff]
  obtain ⟨c, letters, rfl⟩ := List.exists_cons_of_ne_nil isWord.nonempty
  have solidName : Text.IsSolid "Name" := (Text.isWord_of_all (by decide) rfl).solid
  refine ⟨?_, noEqual, ?_, ?_⟩
  · rintro rfl
    obtain ⟨rest, empty, _⟩ := leads
    cases empty
  · obtain ⟨rest, rfl, _⟩ := leads
    exact noRuler
  · rintro ⟨rest, whole⟩
    have named : Text.Leads "Name" body := ⟨' ' :: rest, by simp [← whole], by simp [Text.Divides]; decide⟩
    exact noTitle (leads.eq named isWord.solid solidName)

theorem runFrom_feedAll_append {front lines : List Text} {number : Int} {t : Scan}
    (first : runFrom (feedAll number front) s = (.ok (), t)) :
    runFrom (feedAll number (front ++ lines)) s =
      runFrom (feedAll (number + front.length) lines) t := by
  induction front generalizing number s with
  | nil =>
    cases first
    simp
  | cons line front ih =>
    rw [feedAll, runFrom_bind] at first
    rw [List.cons_append, feedAll, runFrom_bind]
    generalize runFrom (feed line number) s = run at first ⊢
    obtain ⟨fault | value, reached⟩ := run
    · cases first
    · have place : number + 1 + (front.length : Int) = number + ((line :: front).length : Int) := by
        simp only [List.length_cons]
        omega
      rw [← place]
      exact ih first

/-- Consecutive lines lead from a scan to another one, whatever their numbers are. -/
def Reads (lines : List Text) (s t : Scan) : Prop :=
  ∀ number : Int, runFrom (feedAll number lines) s = (.ok (), t)

namespace Reads

variable {lines : List Text} {s t u : Scan}

theorem nil (s : Scan) : Reads [] s s := fun _ => rfl

theorem cons {line : Text} (first : ∀ number, runFrom (feed line number) s = (.ok (), t))
    (later : Reads lines t u) :
    Reads (line :: lines) s u := by
  intro number
  rw [feedAll, runFrom_bind_of_ok (first number), later]

theorem append {front : List Text} (first : Reads front s t) (later : Reads lines t u) :
    Reads (front ++ lines) s u := by
  intro number
  rw [runFrom_feedAll_append (first number), later]

end Reads

end Scan
end ShaderLift
