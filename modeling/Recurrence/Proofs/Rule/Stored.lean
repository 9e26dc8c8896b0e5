import Recurrence.Proofs.DateText.EarlyYear
import Recurrence.Proofs.Rule.Reading
import Recurrence.Proofs.Rule.Validity
import Recurrence.Store.Series

/-! The rule that is read back from the columns of a rule, plain or not. A rule that is read from a
text has weekdays only for its days, whatever the text. -/

namespace Recurrence

namespace Rule

/-- The days of the rule are weekdays. -/
def IsCoded (r : Rule) : Prop := ∀ c ∈ r.byDay, ∃ w : Weekday, w.code = c

open DateText (Standpoint)

variable {r : Rule} {here : Standpoint}

theorem isCoded_weekdayCodes {t c : Text} (member : c ∈ weekdayCodes t) :
    ∃ w : Weekday, w.code = c := by
  obtain ⟨item, _, coded⟩ := List.mem_filterMap.mp member
  obtain ⟨w, -, rfl⟩ := Option.map_eq_some_iff.mp coded
  exact ⟨w, rfl⟩

theorem IsCoded.taking (coded : r.IsCoded) (key : RuleKey) (value : Text) :
    (r.taking here key value).IsCoded := by
  intro c member
  cases key with
  | byDay => exact isCoded_weekdayCodes member
  | ends =>
      rw [taking_ends] at member
      exact coded c member
  | frequency | interval | byMonthDay | byMonth | count => exact coded c member

theorem isCoded_of_read? {t : Text} (h : read? here t = .ok (some r)) : r.IsCoded :=
  of_read? (fun _ member => absurd member List.not_mem_nil)
    (fun _ key value coded => coded.taking key value) h

theorem isSome_interval_taking (given : r.interval.isSome = true) (key : RuleKey) (value : Text) :
    (r.taking here key value).interval.isSome = true := by
  cases key with
  | interval =>
      have either : ((Integer.read? value).or r.interval).isSome = true := by
        rw [Option.isSome_or, given, Bool.or_true]
      exact either
  | ends =>
      rw [taking_ends]
      exact given
  | frequency | byDay | byMonthDay | byMonth | count => exact given

theorem isSome_interval_of_read? {t : Text} (h : read? here t = .ok (some r)) :
    r.interval.isSome = true :=
  @of_read? here r (fun s => s.interval.isSome = true) t rfl
    (fun _ key value given => isSome_interval_taking given key value) h

/-- No numeral of the rule is too long to be written. -/
structure HasShortNumerals (r : Rule) : Prop where
  interval : ∀ n, r.interval = some n → Integer.IsShort n
  byMonthDay : ∀ n ∈ r.byMonthDay, Integer.IsShort n
  byMonth : ∀ n ∈ r.byMonth, Integer.IsShort n
  count : ∀ n, r.count = some n → Integer.IsShort n

theorem HasShortNumerals.withInterval (short : r.HasShortNumerals) {given : Option Int}
    (h : ∀ n, given = some n → Integer.IsShort n) :
    ({ r with interval := given } : Rule).HasShortNumerals :=
  { short with interval := h }

theorem HasShortNumerals.withCount (short : r.HasShortNumerals) {given : Option Int}
    (h : ∀ n, given = some n → Integer.IsShort n) :
    ({ r with count := given } : Rule).HasShortNumerals :=
  { short with count := h }

theorem HasShortNumerals.taking (short : r.HasShortNumerals) (key : RuleKey) (value : Text) :
    (r.taking here key value).HasShortNumerals := by
  have read : ∀ before : Option Int, (∀ n, before = some n → Integer.IsShort n) →
      ∀ n, (Integer.read? value).or before = some n → Integer.IsShort n := by
    intro before held n given
    rcases Option.or_eq_some_iff.mp given with first | ⟨-, kept⟩
    · exact Integer.isShort_of_read? first
    · exact held n kept
  have listed : ∀ n ∈ integers value, Integer.IsShort n := by
    intro n member
    obtain ⟨item, -, first⟩ := List.mem_filterMap.mp member
    exact Integer.isShort_of_read? first
  cases key with
  | interval => exact short.withInterval (read r.interval short.interval)
  | count => exact short.withCount (read r.count short.count)
  | byMonthDay => exact { short with byMonthDay := listed }
  | byMonth => exact { short with byMonth := listed }
  | ends =>
      rw [taking_ends]
      exact { short with }
  | frequency | byDay => exact { short with }

theorem HasShortNumerals.exists_write (short : r.HasShortNumerals)
    (frequency : r.frequency.isSome = true) : ∃ t, r.write = .ok t := by
  obtain ⟨f, given⟩ := Option.isSome_iff_exists.mp frequency
  obtain ⟨interval, intervalWritten⟩ : ∃ t, r.intervalText = .ok t := by
    unfold intervalText
    cases spaced : r.interval with
    | none => exact ⟨_, rfl⟩
    | some n =>
        dsimp only
        split
        · rw [Integer.write_of_isShort (short.interval n spaced)]
          exact ⟨_, rfl⟩
        · exact ⟨_, rfl⟩
  obtain ⟨bound, boundWritten⟩ : ∃ parts, r.boundParts = .ok parts := by
    rw [boundParts]
    cases counted : r.count? with
    | none => cases r.ends <;> exact ⟨_, rfl⟩
    | some n =>
        dsimp only
        rw [Integer.write_of_isShort (short.count n (Option.filter_eq_some_iff.mp counted).1)]
        exact ⟨_, rfl⟩
  rw [write, given]
  dsimp only
  rw [optionalPart, intervalWritten, optionalPart_integers .byMonthDay short.byMonthDay,
    optionalPart_integers .byMonth short.byMonth, boundWritten]
  exact ⟨_, rfl⟩

theorem hasShortNumerals_of_read? {t : Text} (h : read? here t = .ok (some r)) :
    r.HasShortNumerals ∧ r.frequency.isSome = true := by
  have start : ({ frequency := none } : Rule).HasShortNumerals := by
    refine ⟨?_, nofun, nofun, nofun⟩
    rintro _ ⟨⟩
    exact isShort_of_bounds (by decide) (by decide)
  exact ⟨of_read? start (fun _ key value held => held.taking key value) h, (read?_eq_some h).2⟩

/-! What the text of a rule tells: the interval where it is more than one, the count where it is
not zero, and without a count the end as far as its compact date can be read. -/

/-- The rule as it is read back from its columns. -/
def stored (base : DateText.BaseYear) (r : Rule) : Rule :=
  { r with
    interval := some (max 1 (r.interval.getD 1)), count := r.count?
    ends := (r.ends.bind fun s => DateText.retold? base s.date).map .day }

/-- The rule without its end, as it is read back. -/
def endless (r : Rule) : Rule :=
  { r with interval := some (max 1 (r.interval.getD 1)), count := r.count?, ends := none }

/-- The part that tells the end of a rule. -/
def untilParts (r : Rule) : List Text :=
  match r.count?, r.ends with
  | none, some s => [part .ends s.date.compactText]
  | _, _ => []

theorem intervalText_endless (r : Rule) : r.endless.intervalText = r.intervalText := by
  rw [intervalText, intervalText, endless]
  cases r.interval with
  | none => rfl
  | some n =>
      dsimp only [Option.getD_some]
      by_cases more : 1 < n
      · rw [Int.max_eq_right (Int.le_of_lt more)]
      · rw [Int.max_eq_left (Int.not_lt.mp more), if_neg more]
        rfl

theorem isShort_of_integersText {ns : List Int} {t : Option Text} (h : integersText ns = .ok t) :
    ∀ n ∈ ns, Integer.IsShort n := by
  intro n member
  unfold integersText at h
  rw [if_neg fun empty => List.not_mem_nil (List.isEmpty_iff.mp empty ▸ member)] at h
  obtain ⟨_, written, -⟩ := map_eq_ok.mp h
  obtain ⟨texts, each, -⟩ := map_eq_ok.mp written
  obtain ⟨text, numeral⟩ := exists_of_mapM_eq_ok each n member
  exact (Integer.write_eq_ok numeral).1

theorem isPlain_endless {t : Text} (coded : r.IsCoded) (written : r.write = .ok t) :
    r.endless.IsPlain := by
  obtain ⟨intervalShort, countShort⟩ := isShort_of_write written
  unfold write at written
  split at written
  · cases written
  · rename_i f frequency
    obtain ⟨_, -, written⟩ := bind_eq_ok.mp written
    obtain ⟨_, byMonthDay, written⟩ := bind_eq_ok.mp written
    obtain ⟨_, byMonth, -⟩ := bind_eq_ok.mp written
    obtain ⟨_, byMonthDay, -⟩ := map_eq_ok.mp byMonthDay
    obtain ⟨_, byMonth, -⟩ := map_eq_ok.mp byMonth
    exact {
      frequency := Option.isSome_iff_exists.mpr ⟨f, frequency⟩
      interval := by
        refine ⟨_, rfl, Int.le_max_left _ _, ?_⟩
        cases given : r.interval with
        | none => exact isShort_of_bounds (by decide) (by decide)
        | some n =>
            rw [Option.getD_some]
            by_cases more : 1 < n
            · rw [Int.max_eq_right (Int.le_of_lt more)]
              exact intervalShort n given more
            · rw [Int.max_eq_left (Int.not_lt.mp more)]
              exact isShort_of_bounds (by decide) (by decide)
      byDay := coded
      byMonthDay := isShort_of_integersText byMonthDay
      byMonth := isShort_of_integersText byMonth
      count := by
        intro n given
        obtain ⟨given, nonzero⟩ := Option.filter_eq_some_iff.mp given
        have nonzero := of_decide_eq_true nonzero
        exact ⟨nonzero, countShort n given nonzero⟩
      ends := nofun }

theorem write_eq_joined {t : Text} (coded : r.IsCoded) (written : r.write = .ok t) :
    ∃ f, r.frequency = some f
      ∧ t = Text.joined [';'] (part .frequency f.name :: (r.endless.furtherParts ++ r.untilParts)) := by
  have plain := isPlain_endless coded written
  obtain ⟨f, frequency⟩ := Option.isSome_iff_exists.mp plain.frequency
  have given : r.frequency = some f := frequency
  refine ⟨f, given, ?_⟩
  have interval : optionalPart .interval r.intervalText = .ok r.endless.intervalParts := by
    rw [← intervalText_endless]
    exact optionalPart_interval plain
  have bound : r.boundParts = .ok (r.endless.endingParts ++ r.untilParts) := by
    have counts : r.endless.count = r.count? := rfl
    have ends : r.endless.ends = none := rfl
    rw [boundParts, untilParts, endingParts, counts, ends]
    cases counted : r.count? with
    | none => cases r.ends <;> rfl
    | some n =>
        dsimp only
        rw [Integer.write_of_isShort (plain.count n counted).2]
        rfl
  rw [write, given] at written
  dsimp only at written
  have byMonthDay := optionalPart_integers .byMonthDay plain.byMonthDay
  have byMonth := optionalPart_integers .byMonth plain.byMonth
  dsimp only [endless] at byMonthDay byMonth
  rw [interval, byMonthDay, byMonth, bound] at written
  rw [← Except.ok.inj written]
  simp only [furtherParts, listPart, List.cons_append, List.append_assoc, endless]
  rfl

theorem isPartChar_untilParts : ∀ t ∈ r.untilParts, ∀ c ∈ t, IsPartChar c := by
  intro t member c inside
  unfold untilParts at member
  split at member
  · rw [List.mem_singleton.mp member] at inside
    exact isPartChar_part (fun d here => isPartChar_compactText here) inside
  · cases member

theorem isPartChar_writtenParts (plain : r.endless.IsPlain) :
    ∀ t ∈ r.endless.furtherParts ++ r.untilParts, ∀ c ∈ t, IsPartChar c := by
  intro t member
  rcases List.mem_append.mp member with further | ending
  · exact isPartChar_furtherParts plain t further
  · exact isPartChar_untilParts t ending

/-- The text of a rule has letters, digits and a few marks only. -/
theorem bounds_of_mem_write {t : Text} (coded : r.IsCoded) (written : r.write = .ok t) :
    ∀ c ∈ t, 44 ≤ c.toNat ∧ c.toNat ≤ 90 := by
  have plain := isPlain_endless coded written
  obtain ⟨f, -, rfl⟩ := write_eq_joined coded written
  intro c member
  rcases Text.mem_joined member with rfl | ⟨part, among, inside⟩
  · decide
  · have within : IsPartChar c := by
      rcases List.mem_cons.mp among with rfl | later
      · exact isPartChar_part (isPartChar_frequency f) inside
      · exact isPartChar_writtenParts plain part later c inside
    exact ⟨within.1, within.2.1⟩

/-- The text of a rule is read as the rule, told without its end where there is a count. -/
theorem read?_of_coded {t : Text} (coded : r.IsCoded) (written : r.write = .ok t)
    (here : Standpoint) : read? here t = .ok (some (r.stored here.base).told) := by
  have plain := isPlain_endless coded written
  obtain ⟨f, given, rfl⟩ := write_eq_joined coded written
  have chars := isPartChar_writtenParts plain
  have ending : r.untilParts.foldlM (withPart here) r.endless.told
      = .ok (r.stored here.base).told := by
    unfold untilParts
    cases counted : r.count? with
    | some n =>
        simp only [told, endless, stored, counted, Option.isSome_some, if_true, List.foldlM_nil]
        rfl
    | none =>
        cases ends : r.ends with
        | none =>
            simp only [told, endless, stored, counted, ends, Option.isSome_none,
              Bool.false_eq_true, if_false, List.foldlM_nil, Option.bind_none, Option.map_none]
            rfl
        | some s =>
            rw [foldlM_part here _ .ends fun c inside => isPartChar_compactText inside, withValue,
              DateText.day?_eq_retold?]
            simp only [told, endless, stored, counted, ends, Option.isSome_none,
              Bool.false_eq_true, if_false, Option.bind_some, Option.or_none, Except.map]
  rw [read?, parts_joined (isPartChar_frequency f) chars, ← List.cons_append, List.foldlM_append,
    foldlM_parts plain here given, ok_bind, ending]
  exact congrArg Except.ok (if_pos plain.frequency)

theorem told_ended (r : Rule) :
    (if r.told.ends.isSome then r.told else { r.told with ends := r.ends }) = r := by
  rcases r with ⟨frequency, interval, byDay, byMonthDay, byMonth, count, ends⟩
  cases count <;> cases ends <;> rfl

theorem isPlain_stored {t : Text} (coded : r.IsCoded) (written : r.write = .ok t)
    (base : DateText.BaseYear) : (r.stored base).IsPlain :=
  { isPlain_endless coded written with
    ends := by
      intro s given
      obtain ⟨d, read, rfl⟩ := Option.map_eq_some_iff.mp given
      obtain ⟨s, -, read⟩ := Option.bind_eq_some_iff.mp read
      exact ⟨d, rfl, DateText.year_of_retold? read⟩ }

end Rule

namespace Event

open DateText (Standpoint)

variable {e : Event} {r : Rule} {here : Standpoint}

theorem rule?_eq_some (h : e.rule? here = .ok (some r)) :
    ∃ t told, e.ruleText = some t ∧ Rule.read? here t = .ok (some told)
      ∧ (if told.ends.isSome then told else { told with ends := e.endDate.map Stamp.day }) = r := by
  unfold rule? at h
  split at h
  · cases h
  · rename_i t text
    obtain ⟨told?, read, h⟩ := map_eq_ok.mp h
    obtain ⟨told, rfl, given⟩ := Option.map_eq_some_iff.mp h
    exact ⟨t, told, text, read, given⟩

theorem exists_read?_of_rule? (h : e.rule? here = .ok (some r)) :
    ∃ t told, Rule.read? here t = .ok (some told) ∧ { r with ends := told.ends } = told := by
  obtain ⟨t, told, -, read, given⟩ := rule?_eq_some h
  refine ⟨t, told, read, ?_⟩
  rw [← given]
  split <;> rfl

/-- A rule that is read back can be written again. -/
theorem exists_write_of_rule? (h : e.rule? here = .ok (some r)) : ∃ text, r.write = .ok text := by
  obtain ⟨t, told, read, same⟩ := exists_read?_of_rule? h
  obtain ⟨short, frequency⟩ := Rule.hasShortNumerals_of_read? read
  rw [← same] at short frequency
  exact Rule.HasShortNumerals.exists_write { short with } frequency

theorem isCoded_of_rule? (h : e.rule? here = .ok (some r)) : r.IsCoded := by
  obtain ⟨t, told, read, same⟩ := exists_read?_of_rule? h
  have coded := Rule.isCoded_of_read? read
  rw [← same] at coded
  exact coded

theorem isSome_interval_of_rule? (h : e.rule? here = .ok (some r)) : r.interval.isSome = true := by
  obtain ⟨t, told, read, same⟩ := exists_read?_of_rule? h
  have given := Rule.isSome_interval_of_read? read
  rw [← same] at given
  exact given

/-- The rule is read from the text, with the end date where the text tells no end. -/
theorem rule?_of_read? {t : Text} {told : Rule} (text : e.ruleText = some t)
    (read : Rule.read? here t = .ok (some told)) :
    e.rule? here = .ok (some
      (if told.ends.isSome then told else { told with ends := e.endDate.map Stamp.day })) := by
  simp only [rule?, text, read, Except.map, Option.map_some]

theorem rule?_of_coded {t : Text} (coded : r.IsCoded) (written : r.write = .ok t)
    (text : e.ruleText = some t)
    (kept : e.endDate = r.ends.bind fun s => DateText.retold? here.base s.date) :
    e.rule? here = .ok (some (r.stored here.base)) := by
  rw [rule?_of_read? text (Rule.read?_of_coded coded written here), kept]
  exact congrArg (fun s => Except.ok (some s)) (Rule.told_ended _)

end Event

end Recurrence
