import Recurrence.Proofs.DateText.Ordering
import Recurrence.Proofs.Rule.Stored

/-! The text a rule is written as, whatever text the rule was read from. Reading it gives a rule that
is written alike, but for one case: the compact date of a year before 1000 is not read as it was
written. -/

namespace Recurrence.Rule

open DateText (BaseYear Standpoint)

variable {r : Rule} {here : Standpoint} {t : Text}

/-! What is read back differs from the rule by its end at most. -/

theorem count?_told_stored (r : Rule) (base : BaseYear) :
    (r.stored base).told.count? = r.count? := by
  rw [told, stored, count?, count?, Option.filter_filter]
  simp only [Bool.and_self]

theorem endless_told_stored (r : Rule) (base : BaseYear) :
    (r.stored base).told.endless = r.endless := by
  have interval : max 1 (max 1 (r.interval.getD 1)) = max 1 (r.interval.getD 1) :=
    Int.max_eq_right (Int.le_max_left _ _)
  have counted := count?_told_stored r base
  unfold endless
  rw [counted]
  simp only [told, stored, Option.getD_some, interval]

theorem ends_told_stored (uncounted : r.count? = none) (base : BaseYear) :
    (r.stored base).told.ends = (r.ends.bind fun s => DateText.retold? base s.date).map .day := by
  simp only [told, stored, uncounted, Option.isSome_none, Bool.false_eq_true, if_false]

/-- The end is told as it is: there is none, or a count stands in its place, or its year has four
digits. -/
def TellsEnd (r : Rule) : Prop := r.count?.isSome ∨ ∀ s, r.ends = some s → 1000 ≤ s.date.year

theorem untilParts_reread_iff (r : Rule) (base : BaseYear) :
    (r.stored base).told.untilParts = r.untilParts ↔ r.TellsEnd := by
  rw [untilParts, untilParts, count?_told_stored, TellsEnd]
  cases counted : r.count? with
  | some n => exact iff_of_true rfl (.inl rfl)
  | none =>
      rw [ends_told_stored counted]
      cases ended : r.ends with
      | none => exact iff_of_true rfl (.inr fun _ is => (Option.some_ne_none _ is.symm).elim)
      | some s =>
          rw [Option.bind_some]
          constructor
          · intro equal
            cases told : DateText.retold? base s.date with
            | none =>
                rw [told] at equal
                cases equal
            | some d =>
                rw [told] at equal
                have texts := List.append_cancel_left (List.head_eq_of_cons_eq equal)
                have days : d = s.date := Date.compactText_inj.mp (List.tail_eq_of_cons_eq texts)
                refine .inr fun _ is => ?_
                cases is
                exact days ▸ DateText.year_of_retold? told
          · intro tells
            have year := tells.resolve_left Bool.false_ne_true
            rw [DateText.retold?_of_year (year s rfl)]
            rfl

/-! The parts of a text tell what it was written from. -/

theorem parts_of_write (coded : r.IsCoded) (written : r.write = .ok t) :
    ∃ f, r.frequency = some f
      ∧ parts t = part .frequency f.name :: (r.endless.furtherParts ++ r.untilParts) := by
  obtain ⟨f, given, rfl⟩ := write_eq_joined coded written
  refine ⟨f, given, parts_joined (isPartChar_frequency f) ?_⟩
  intro t member
  rcases List.mem_append.mp member with further | ending
  · exact isPartChar_furtherParts (isPlain_endless coded written) t further
  · exact isPartChar_untilParts t ending

/-- Rules that differ by their ends at most are written alike where their ends are. -/
theorem write_eq_iff {s : Rule} {u : Text} (coded : r.IsCoded) (written : r.write = .ok t)
    (coded' : s.IsCoded) (written' : s.write = .ok u) (frequency : s.frequency = r.frequency)
    (endless : s.endless = r.endless) : u = t ↔ s.untilParts = r.untilParts := by
  constructor
  · rintro rfl
    obtain ⟨f, given, cut⟩ := parts_of_write coded written
    obtain ⟨g, given', cut'⟩ := parts_of_write coded' written'
    have same : g = f := Option.some.inj (given'.symm.trans (frequency.trans given))
    rw [cut, endless, same] at cut'
    exact (List.append_cancel_left (List.tail_eq_of_cons_eq cut')).symm
  · intro ends
    obtain ⟨f, given, rfl⟩ := write_eq_joined coded written
    obtain ⟨g, given', rfl⟩ := write_eq_joined coded' written'
    have same : g = f := Option.some.inj (given'.symm.trans (frequency.trans given))
    rw [endless, ends, same]

/-- What a text is read as can be written, and what it is written as is read again, on any day, and
written once more. The two writings are the same text exactly if the end is told. -/
theorem write_read?_write_iff (read : read? here t = .ok (some r)) (later : Standpoint) :
    ∃ text told again, r.write = .ok text ∧ read? later text = .ok (some told)
      ∧ told.write = .ok again ∧ (again = text ↔ r.TellsEnd) := by
  obtain ⟨short, frequency⟩ := hasShortNumerals_of_read? read
  have coded := isCoded_of_read? read
  obtain ⟨text, written⟩ := short.exists_write frequency
  have reread := read?_of_coded coded written later
  obtain ⟨short', frequency'⟩ := hasShortNumerals_of_read? reread
  have coded' := isCoded_of_read? reread
  obtain ⟨again, written'⟩ := short'.exists_write frequency'
  refine ⟨text, _, again, written, reread, written', ?_⟩
  rw [← untilParts_reread_iff r later.base]
  exact write_eq_iff coded written coded' written' rfl (endless_told_stored r later.base)

/-- Every day until the end of the year 999, with a count that counts nothing. -/
def untilYear999 : Rule where
  frequency := some .daily
  count := some 0
  ends := some (.day ⟨999, 12, 31, by decide⟩)

/-- The end of this rule is written with seven digits, which are read as no day. -/
theorem write_read?_write_untilYear999 :
    read? .first "freq=daily; count=0; until=0999-12-31".toList = .ok (some untilYear999)
      ∧ ∃ text told again, untilYear999.write = .ok text ∧ read? .first text = .ok (some told)
        ∧ told.write = .ok again ∧ again ≠ text := by
  have read : read? .first "freq=daily; count=0; until=0999-12-31".toList
      = .ok (some untilYear999) := by
    decide +kernel
  refine ⟨read, ?_⟩
  obtain ⟨text, told, again, written, reread, rewritten, same⟩ :=
    write_read?_write_iff read .first
  refine ⟨text, told, again, written, reread, rewritten, mt same.mp ?_⟩
  intro tells
  have year : 1000 ≤ 999 := tells.resolve_left Bool.false_ne_true _ rfl
  exact absurd year (by decide)

end Recurrence.Rule
