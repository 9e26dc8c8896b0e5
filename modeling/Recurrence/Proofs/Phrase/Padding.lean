import Recurrence.Proofs.Pattern.Padding
import Recurrence.Proofs.Text.Strip
import Recurrence.Phrase.Basic

/-! Blanks around a phrase. Each pattern of the table ignores them and each rule is made from the texts in
the groups, so a phrase with blanks around it is recognized as the phrase is without them. -/

namespace Recurrence.Phrase

open Pattern (Place)

variable {a b : Place} {t front back : Text}

/-- The rule of an entry is made from the texts in the groups alone. -/
def Entry.ReadsCaptured (entry : Entry) : Prop :=
  ∀ a b : Place, a.captured = b.captured → entry.rule a = entry.rule b

theorem group?_of_captured (same : a.captured = b.captured) : a.group? = b.group? := by
  funext index
  rw [Place.group?_eq, Place.group?_eq, same]

theorem firstGroup_of_captured (same : a.captured = b.captured) : firstGroup a = firstGroup b := by
  rw [firstGroup, firstGroup, group?_of_captured same]

theorem readsCaptured_plain (pattern : Pattern) (rule : Rule) :
    Entry.ReadsCaptured ⟨pattern, plain rule⟩ := fun _ _ _ => rfl

theorem readsCaptured_everyFew (pattern : Pattern) (frequency : Frequency) :
    Entry.ReadsCaptured ⟨pattern, everyFew frequency⟩ := by
  intro a b same
  dsimp only [everyFew]
  rw [firstGroup_of_captured same]

theorem readsCaptured_onWeekday (pattern : Pattern) : Entry.ReadsCaptured ⟨pattern, onWeekday⟩ := by
  intro a b same
  dsimp only [onWeekday]
  rw [group?_of_captured same]

theorem readsCaptured_onMonthDay (pattern : Pattern) : Entry.ReadsCaptured ⟨pattern, onMonthDay⟩ := by
  intro a b same
  dsimp only [onMonthDay]
  rw [firstGroup_of_captured same]

theorem readsCaptured_of_mem_table : ∀ entry ∈ table, entry.ReadsCaptured := by
  unfold table
  simp only [List.forall_mem_cons]
  exact ⟨readsCaptured_plain _ _, readsCaptured_everyFew _ _, readsCaptured_plain _ _,
    readsCaptured_everyFew _ _, readsCaptured_plain _ _, readsCaptured_plain _ _,
    readsCaptured_onWeekday _, readsCaptured_plain _ _, readsCaptured_everyFew _ _,
    readsCaptured_onMonthDay _, readsCaptured_plain _ _, readsCaptured_plain _ _, nofun⟩

/-- The table with the check of its patterns. -/
def checkedTable : { entries : List Entry // ∀ entry ∈ entries, entry.pattern.ignoresPadding = true } :=
  ⟨table, by decide +kernel⟩

theorem ruleFrom_padded {entries : List Entry}
    (ignores : ∀ entry ∈ entries, entry.pattern.ignoresPadding = true)
    (reads : ∀ entry ∈ entries, entry.ReadsCaptured) (ahead : ∀ c ∈ front, isBlank c = true)
    (behind : ∀ c ∈ back, isBlank c = true) :
    ruleFrom entries (front ++ t ++ back) = ruleFrom entries t := by
  induction entries with
  | nil => rfl
  | cons entry entries ih =>
      obtain ⟨ignores, others⟩ := List.forall_mem_cons.mp ignores
      obtain ⟨here, later⟩ := List.forall_mem_cons.mp reads
      have found := Pattern.captured_find? ignores ahead behind (t := t)
      rw [ruleFrom, ruleFrom]
      cases bare : entry.pattern.find? t with
      | none =>
          rw [bare] at found
          rw [Option.map_eq_none_iff.mp found]
          exact ih others later
      | some b =>
          rw [bare] at found
          obtain ⟨a, padded, same⟩ := Option.map_eq_some_iff.mp found
          rw [padded]
          exact congrArg (Except.map some) (here a b same)

theorem recognize_append (ahead : ∀ c ∈ front, isBlank c = true) (behind : ∀ c ∈ back, isBlank c = true) :
    recognize (front ++ t ++ back) = recognize t :=
  ruleFrom_padded checkedTable.2 readsCaptured_of_mem_table ahead behind

theorem recognize_strip (t : Text) : recognize t.strip = recognize t := by
  obtain ⟨back, whole, behind⟩ := Text.exists_trimRight isBlank (t.dropWhile isBlank)
  have ahead : ∀ c ∈ t.takeWhile isBlank, isBlank c = true := fun _ => List.mem_takeWhile_imp
  have parts : t = t.takeWhile isBlank ++ t.strip ++ back := by
    rw [List.append_assoc, Text.strip, Text.trimBoth, ← whole, List.takeWhile_append_dropWhile]
  conv => rhs; rw [parts]
  exact (recognize_append ahead behind).symm

/-- Blanks around a phrase change nothing: neither what is recognized in it nor whether it is a rule
text. So the phrase as it is given and the phrase with its blanks stripped are read as the same rule
where the text is none. -/
theorem recognize_padded (t : Text) {front back : Text} (ahead : ∀ c ∈ front, isBlank c = true)
    (behind : ∀ c ∈ back, isBlank c = true) :
    recognize (front ++ t ++ back) = recognize t
      ∧ (∀ here, Rule.read? here (front ++ t ++ back) = Rule.read? here t)
      ∧ ∀ here, Rule.read? here (front ++ t ++ back) = .ok none → read here (front ++ t ++ back)
        = (recognize (front ++ t ++ back).strip).map fun rule? => rule?.map fun rule => (rule, .phrase) := by
  refine ⟨recognize_append ahead behind, fun here => ?_, fun here none => ?_⟩
  · rw [Rule.read?, Rule.parts, Text.strip_append_blanks ahead behind]
    rfl
  · rw [read, none, ok_bind, recognize_strip]

/-- A lookahead behind the month finds no day in the blanks. -/
theorem recognize_padded_everyMonth :
    let here : DateText.Standpoint := ⟨⟨2024, 1, 1, by decide⟩, ⟨2024, by decide⟩⟩
    let padded : Text := "  ".toList ++ "every month".toList ++ " ".toList
    recognize padded = recognize "every month".toList
      ∧ (recognize padded).toOption = some (some { frequency := some .monthly })
      ∧ Rule.read? here padded = .ok none
      ∧ read here padded
        = (recognize padded.strip).map fun rule? => rule?.map fun rule => (rule, .phrase) := by
  intro here padded
  have ahead : ∀ c ∈ "  ".toList, isBlank c = true := by decide
  have behind : ∀ c ∈ " ".toList, isBlank c = true := by decide
  have noText : Rule.read? here padded = .ok none := by decide +kernel
  obtain ⟨same, -, read⟩ := recognize_padded "every month".toList ahead behind
  exact ⟨same, by decide +kernel, noText, read here noText⟩

end Recurrence.Phrase
