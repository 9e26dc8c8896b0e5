import Recurrence.Proofs.Phrase.Numeral

/-! When a phrase is recognized. What a pattern takes is looked up once more to make the rule, and
the second look is as broad as the first but for a few letters and for very long numerals. Without
those every text has an answer: a rule with an interval and with known weekdays, or none. -/

namespace Recurrence.Phrase

variable {p : Pattern} {t u : Text} {place : Pattern.Place}

/-- The interval is a number, and the days are codes of weekdays. -/
structure IsComplete (rule : Rule) : Prop where
  interval : rule.interval.isSome = true
  byDay : ∀ day ∈ rule.byDay, ∃ w : Weekday, day = w.code

/-- There is an outcome, and a rule in it is complete. -/
def IsAnswered (outcome : Except Fault (Option Rule)) : Prop :=
  ∃ rule?, outcome = .ok rule? ∧ ∀ rule ∈ rule?, IsComplete rule

/-! The group a rule is made from. -/

theorem firstGroup_of_group?_one (held : place.group? 1 = some u) (nonempty : u ≠ []) :
    firstGroup place = u := by
  obtain ⟨c, r, rfl⟩ := List.exists_cons_of_ne_nil nonempty
  rw [firstGroup, held]

theorem firstGroup_of_group?_two (absent : place.group? 1 = none) (held : place.group? 2 = some u) :
    firstGroup place = u := by
  rw [firstGroup, absent, held]
  rfl

theorem firstGroup_isInfix (found : p.find? t = some place) : firstGroup place <:+: t := by
  rw [firstGroup]
  split
  · rename_i c r held
    exact (Pattern.group?_of_find? found held).2
  · cases held : place.group? 2 with
    | some u => exact (Pattern.group?_of_find? found held).2
    | none => exact List.nil_infix

/-- A pattern without groups leaves nothing to read. -/
theorem firstGroup_eq_nil (found : p.find? t = some place) (bare : p.parts = []) :
    firstGroup place = [] := by
  have absent : ∀ i, place.group? i = none := by
    intro i
    cases held : place.group? i with
    | none => rfl
    | some u =>
        obtain ⟨⟨part, member, -⟩, -⟩ := Pattern.group?_of_find? found held
        rw [bare] at member
        exact absurd member List.not_mem_nil
  rw [firstGroup, absent 1, absent 2]
  rfl

/-- In a pattern with a group in each of two forms, the first group is the one of the form found. -/
theorem firstGroup_of_find? {one two : Pattern} (found : p.find? t = some place)
    (every : p.captures = true) (parts : p.parts = [(1, one), (2, two)])
    (nonempty : ¬ one.Admits []) :
    (place.group? 1 = some (firstGroup place) ∧ one.Admits (firstGroup place)) ∨
      (place.group? 1 = none ∧ place.group? 2 = some (firstGroup place) ∧
        two.Admits (firstGroup place)) := by
  have listed : ∀ {i u}, place.group? i = some u →
      (i = 1 ∧ one.Admits u) ∨ (i = 2 ∧ two.Admits u) := by
    intro i u held
    obtain ⟨⟨part, member, admits⟩, -⟩ := Pattern.group?_of_find? found held
    rw [parts] at member
    rcases List.mem_pair.mp member with same | same
    · cases same
      exact .inl ⟨rfl, admits⟩
    · cases same
      exact .inr ⟨rfl, admits⟩
  cases held : place.group? 1 with
  | some u =>
      rcases listed held with ⟨-, admits⟩ | ⟨absurdity, -⟩
      · rw [firstGroup_of_group?_one held fun empty => nonempty (empty ▸ admits)]
        exact .inl ⟨rfl, admits⟩
      · exact absurd absurdity (by decide)
  | none =>
      obtain ⟨i, u, -, some_held⟩ := Pattern.exists_group?_of_find? found every
      rcases listed some_held with ⟨rfl, -⟩ | ⟨rfl, admits⟩
      · rw [held] at some_held
        cases some_held
      · rw [firstGroup_of_group?_two held some_held]
        exact .inr ⟨rfl, some_held, admits⟩

/-! The kinds of rules. -/

theorem not_isUnreadable_nil : ¬ IsUnreadable [] := by
  rintro (⟨c, member, -⟩ | ⟨long, -⟩)
  · exact absurd member List.not_mem_nil
  · exact absurd long (Nat.not_lt.mpr (Nat.zero_le _))

/-- What an entry of the table guarantees wherever its pattern is found. -/
def Entry.IsSound (entry : Entry) : Prop :=
  ∀ t place, entry.pattern.find? t = some place →
    (IsAnswered ((entry.rule place).map some) ↔ ¬ IsUnreadable (firstGroup place))

theorem isAnswered_ok {rule : Rule} : IsAnswered (.ok (some rule)) ↔ IsComplete rule := by
  constructor
  · rintro ⟨_, same, complete⟩
    cases same
    exact complete rule rfl
  · intro complete
    exact ⟨some rule, rfl, fun _ same => Option.some.inj same ▸ complete⟩

theorem not_isAnswered_error {fault : Fault} : ¬ IsAnswered (.error fault) := by
  rintro ⟨_, same, -⟩
  cases same

theorem isSound_plain (pattern : Pattern) {rule : Rule} (bare : pattern.parts = [])
    (complete : IsComplete rule) : Entry.IsSound ⟨pattern, plain rule⟩ := by
  intro t place found
  rw [firstGroup_eq_nil found bare]
  exact iff_of_true (isAnswered_ok.mpr complete) not_isUnreadable_nil

theorem numeralForms_nonempty : ¬ numeralForms.Admits [] := by
  have words : [] ∉ englishNumbers := by decide
  intro admits
  rcases admits_numeralForms.mp admits with ⟨nonempty, -⟩ | ⟨nonempty, -⟩ | ⟨w, word, same⟩
  · exact nonempty rfl
  · exact nonempty rfl
  · cases same
    exact words word

/-- An interval is missing exactly if the numeral is unreadable. -/
theorem isSound_everyFew (pattern : Pattern) {frequency : Frequency}
    (every : pattern.captures = true)
    (parts : pattern.parts = [(1, numeralForms), (2, numeralForms)]) :
    Entry.IsSound ⟨pattern, everyFew frequency⟩ := by
  intro t place found
  have taken : numeralForms.Admits (firstGroup place) := by
    rcases firstGroup_of_find? found every parts numeralForms_nonempty with first | second
    · exact first.2
    · exact second.2.2
  rw [← exists_number?_iff taken]
  dsimp only [everyFew]
  cases number? (firstGroup place) with
  | error fault => exact iff_of_false not_isAnswered_error nofun
  | ok number =>
      apply isAnswered_ok.trans
      cases number with
      | none =>
          apply iff_of_false
          · exact fun complete => Bool.false_ne_true complete.interval
          · exact nofun
      | some n =>
          apply iff_of_true
          · exact ⟨rfl, fun _ absent => absurd absent List.not_mem_nil⟩
          · exact ⟨n, rfl⟩

/-- The pattern for English weekday names. -/
def weekdayNames : Pattern := Pattern.choice (englishWeekdays.map fun e => Pattern.literal e.1)

theorem admits_weekdayNames :
    weekdayNames.Admits t ↔ ∃ e ∈ englishWeekdays, Pattern.SameWord e.1 t := by
  have nonempty : englishWeekdays.map (fun e => Pattern.literal e.1) ≠ [] := List.cons_ne_nil _ _
  rw [weekdayNames, Pattern.admits_choice nonempty]
  simp only [List.mem_map, exists_exists_and_eq_and, Pattern.admits_literal]

theorem isComplete_onDay (w : Weekday) :
    IsComplete { frequency := some .weekly, byDay := [w.code] } :=
  ⟨rfl, fun _ member => ⟨w, List.mem_singleton.mp member⟩⟩

theorem isSound_onWeekday (pattern : Pattern) (every : pattern.captures = true)
    (parts : pattern.parts = [(1, Pattern.oneOf weekdaySigns), (2, weekdayNames)]) :
    Entry.IsSound ⟨pattern, onWeekday⟩ := by
  intro t place found
  have sign_nonempty : ¬ (Pattern.oneOf weekdaySigns).Admits [] := by
    rintro ⟨c, absurdity, -⟩
    cases absurdity
  rcases firstGroup_of_find? found every parts sign_nonempty with ⟨held, taken⟩ | ⟨absent, held, taken⟩
  · obtain ⟨c, single, sign⟩ := taken
    have known : ∀ c ∈ weekdaySigns,
        (chineseWeekday? [c]).isSome = true ∧ ¬ c ∈ lookalikes := by decide
    obtain ⟨some, pure⟩ := known c (List.contains_iff_mem.mp sign)
    obtain ⟨w, day⟩ := Option.isSome_iff_exists.mp some
    have short : (firstGroup place).length ≤ digitLimit := by
      rw [single]
      change 1 ≤ digitLimit
      decide
    rw [isUnreadable_iff_of_short short]
    dsimp only [onWeekday]
    rw [held, single]
    dsimp only
    rw [day]
    apply iff_of_true (isAnswered_ok.mpr (isComplete_onDay w))
    rintro ⟨d, member, odd⟩
    exact pure (List.mem_singleton.mp member ▸ odd)
  · obtain ⟨⟨name, w⟩, entry, same⟩ := admits_weekdayNames.mp taken
    have known : ∀ e ∈ englishWeekdays,
        IsPlainWord e.1 ∧ e.1.length ≤ digitLimit ∧ englishWeekday? e.1 = some e.2 := by decide
    obtain ⟨plain, length, day⟩ := known _ entry
    rw [isUnreadable_iff_of_short (same.length_eq ▸ length)]
    dsimp only [onWeekday]
    rw [absent, held]
    dsimp only [Option.getD_some]
    by_cases odd : ∃ c ∈ firstGroup place, c ∈ lookalikes
    · have marked := exists_mark_of_sameWord plain same odd
      have unknown : englishWeekday? (firstGroup place).lower = none := by
        rw [englishWeekday?, List.find?_eq_none.mpr]
        · rfl
        · intro e member equal
          exact ne_of_mark (known e member).1 marked (beq_iff_eq.mp equal)
      rw [unknown]
      exact iff_of_false not_isAnswered_error (not_not_intro odd)
    · rw [lower_of_sameWord plain same fun c member look => odd ⟨c, member, look⟩, day]
      exact iff_of_true (isAnswered_ok.mpr (isComplete_onDay w)) odd

/-- One digit or two. -/
def dayDigits : Pattern :=
  Pattern.sequence [Pattern.char isDigit, Pattern.optional (Pattern.char isDigit)]

/-- A day in a Chinese phrase, nothing of its kind behind it. -/
def dayForms : Pattern :=
  Pattern.choice [
    Pattern.sequence [Pattern.char isDigit, Pattern.optional (Pattern.char isDigit),
      Pattern.notAhead (Pattern.char isDigit)],
    Pattern.sequence [Pattern.oneOrMore isDayNumeral,
      Pattern.notAhead (Pattern.char isDayNumeral)]]

theorem digits_of_admits {rest : Pattern} (nothing : ∀ v, rest.Admits v → v = [])
    (taken : (Pattern.seq (Pattern.char isDigit)
      (.seq (Pattern.optional (Pattern.char isDigit)) rest)).Admits t) :
    t ≠ [] ∧ t.length ≤ 2 ∧ ∀ c ∈ t, isDigit c = true := by
  obtain ⟨_, _, rfl, ⟨c, rfl, one⟩, _, _, rfl, more, behind⟩ := taken
  rw [nothing _ behind, List.append_nil]
  rcases more with ⟨d, rfl, two⟩ | nothing
  · refine ⟨List.cons_ne_nil _ _, Nat.le_refl 2, ?_⟩
    exact List.forall_mem_cons.mpr ⟨one, List.forall_mem_singleton.mpr two⟩
  · rw [show _ = [] from nothing]
    exact ⟨List.cons_ne_nil _ _, Nat.le_succ 1, List.forall_mem_singleton.mpr one⟩

theorem not_isUnreadable_of_dayDigits {rest : Pattern} (nothing : ∀ v, rest.Admits v → v = [])
    (taken : (Pattern.seq (Pattern.char isDigit)
      (.seq (Pattern.optional (Pattern.char isDigit)) rest)).Admits t) :
    numeralForms.Admits t ∧ ¬ IsUnreadable t := by
  obtain ⟨nonempty, short, digits⟩ := digits_of_admits nothing taken
  have within : t.length ≤ digitLimit := Nat.le_trans short (by decide)
  rw [isUnreadable_iff_of_isDigit digits]
  exact ⟨admits_numeralForms.mpr (.inl ⟨nonempty, digits⟩), Nat.not_lt.mpr within⟩

theorem not_isUnreadable_of_dayForms (taken : dayForms.Admits t) :
    numeralForms.Admits t ∧ ¬ IsUnreadable t := by
  rcases taken with digits | ⟨_, _, rfl, signs, _, _, rfl, behind, rfl⟩
  · apply not_isUnreadable_of_dayDigits _ digits
    rintro _ ⟨_, _, rfl, rfl, rfl⟩
    rfl
  · obtain ⟨nonempty, all⟩ := Pattern.admits_oneOrMore.mp signs
    have numerals : ∀ c ∈ "零一二三四五六七八九十".toList, isChineseNumeral c = true := by decide
    have chinese := fun c member => numerals c (List.contains_iff_mem.mp (all c member))
    rw [show _ = [] from behind, List.append_nil, List.append_nil]
    exact ⟨admits_numeralForms.mpr (.inr (.inl ⟨nonempty, chinese⟩)),
      not_isUnreadable_of_isChineseNumeral chinese nonempty⟩

theorem dayForms_nonempty : ¬ dayForms.Admits [] := fun taken =>
  numeralForms_nonempty (not_isUnreadable_of_dayForms taken).1

/-- A day of the month that a phrase is found with is readable. -/
theorem day_of_find? (found : onOneMonthDay.pattern.find? t = some place) :
    numeralForms.Admits (firstGroup place) ∧ ¬ IsUnreadable (firstGroup place) := by
  have parts : onOneMonthDay.pattern.parts = [(1, dayForms), (2, dayDigits)] := rfl
  rcases firstGroup_of_find? found rfl parts dayForms_nonempty with ⟨-, taken⟩ | ⟨-, -, taken⟩
  · exact not_isUnreadable_of_dayForms taken
  · exact not_isUnreadable_of_dayDigits (fun _ => id) taken

theorem isSound_onOneMonthDay : onOneMonthDay.IsSound := by
  intro t place found
  obtain ⟨taken, readable⟩ := day_of_find? found
  obtain ⟨n, number⟩ := (exists_number?_iff taken).mpr readable
  change IsAnswered ((onMonthDay place).map some) ↔ _
  rw [onMonthDay, number]
  exact iff_of_true (isAnswered_ok.mpr ⟨rfl, fun _ absent => absurd absent List.not_mem_nil⟩) readable

/-! The table. -/

theorem isComplete_onDays (days : List Weekday) (frequency : Frequency) :
    IsComplete { frequency := some frequency, byDay := days.map Weekday.code } := by
  refine ⟨rfl, fun day member => ?_⟩
  obtain ⟨w, -, same⟩ := List.mem_map.mp member
  exact ⟨w, same.symm⟩

theorem isSound_of_mem_table {entry : Entry} (listed : entry ∈ table) : entry.IsSound := by
  have noDay : ∀ frequency interval, IsComplete
      { frequency := some frequency, interval := some interval } :=
    fun _ _ => ⟨rfl, fun _ absent => absurd absent List.not_mem_nil⟩
  simp only [table, List.mem_cons, List.not_mem_nil, or_false] at listed
  rcases listed with rfl | rfl | rfl | rfl | rfl | rfl | rfl | rfl | rfl | rfl | rfl | rfl
  · exact isSound_plain daily.pattern rfl (noDay .daily 1)
  · exact isSound_everyFew everyFewDays.pattern rfl rfl
  · exact isSound_plain weekly.pattern rfl (noDay .weekly 1)
  · exact isSound_everyFew everyFewWeeks.pattern rfl rfl
  · exact isSound_plain onWorkdays.pattern rfl (isComplete_onDays _ .weekly)
  · exact isSound_plain onWeekends.pattern rfl (isComplete_onDays _ .weekly)
  · exact isSound_onWeekday onOneWeekday.pattern rfl rfl
  · exact isSound_plain monthly.pattern rfl (noDay .monthly 1)
  · exact isSound_everyFew everyFewMonths.pattern rfl rfl
  · exact isSound_onOneMonthDay
  · exact isSound_plain yearly.pattern rfl (noDay .yearly 1)
  · exact isSound_plain everyOtherWeek.pattern rfl (noDay .weekly 2)

/-- The place where the first entry whose pattern is found ends. -/
def firstPlace? (entries : List Entry) (t : Text) : Option Pattern.Place :=
  entries.findSome? fun entry => entry.pattern.find? t

/-- The piece of a text that its rule is made from; empty if the phrase says it all, or if there
is none. -/
def token (t : Text) : Text := ((firstPlace? table t).map firstGroup).getD []

theorem token_isInfix (t : Text) : token t <:+: t := by
  rw [token]
  cases first : firstPlace? table t with
  | none => exact List.nil_infix
  | some place =>
      obtain ⟨entry, -, found⟩ := List.exists_of_findSome?_eq_some first
      exact firstGroup_isInfix found

theorem isAnswered_ruleFrom {entries : List Entry} (sound : ∀ entry ∈ entries, entry.IsSound) :
    IsAnswered (ruleFrom entries t) ↔
      ¬ IsUnreadable (((firstPlace? entries t).map firstGroup).getD []) := by
  induction entries with
  | nil => exact iff_of_true ⟨none, rfl, nofun⟩ not_isUnreadable_nil
  | cons entry entries ih =>
      obtain ⟨here, later⟩ := List.forall_mem_cons.mp sound
      rw [ruleFrom, firstPlace?, List.findSome?_cons]
      cases found : entry.pattern.find? t with
      | some place => exact here t place found
      | none => exact ih later

/-- Every text has an answer, a complete rule or none, but for those whose token has a letter that
only looks like one of ASCII, or more digits than are read. A day of the month is always a number. -/
theorem isAnswered_recognize_iff (t : Text) :
    (IsAnswered (recognize t) ↔ ¬ IsUnreadable (token t)) ∧ token t <:+: t ∧
      ∀ place, onOneMonthDay.pattern.find? t = some place →
        ∃ n, number? (firstGroup place) = .ok (some n) := by
  refine ⟨isAnswered_ruleFrom fun _ => isSound_of_mem_table, token_isInfix t, ?_⟩
  intro place found
  obtain ⟨taken, readable⟩ := day_of_find? found
  exact (exists_number?_iff taken).mpr readable

/-- A long s spells neither a number nor a weekday, though the patterns take it. -/
theorem isAnswered_recognize_longS :
    IsAnswered (recognize "every six days".toList) ∧
      ¬ IsAnswered (recognize "every ſix days".toList) ∧
      ¬ IsAnswered (recognize "every ſunday".toList) := by
  have tokens : token "every six days".toList = "six".toList ∧
      token "every ſix days".toList = "ſix".toList ∧
      token "every ſunday".toList = "ſun".toList := by decide +kernel
  have pure : ¬ ∃ c ∈ "six".toList, c ∈ lookalikes := by decide
  have short : "six".toList.length ≤ digitLimit := by decide
  rw [(isAnswered_recognize_iff _).1, (isAnswered_recognize_iff _).1,
    (isAnswered_recognize_iff _).1, tokens.1, tokens.2.1, tokens.2.2, not_not, not_not,
    isUnreadable_iff_of_short short]
  exact ⟨pure, .inl ⟨'ſ', by decide⟩, .inl ⟨'ſ', by decide⟩⟩

end Recurrence.Phrase
