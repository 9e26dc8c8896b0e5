import Recurrence.Proofs.DateText.Compact
import Recurrence.Rule.Text
import Recurrence.Rule.Validity

/-! Rule texts tell the whole rule: reading the text of a rule gives the rule back, except that an
end beside a count is not told. -/

namespace Recurrence

theorem Weekday.ofCode?_code (w : Weekday) : ofCode? w.code = some w := by
  cases w <;> rfl

theorem Weekday.code_of_ofCode? {c : Text} {w : Weekday} (h : ofCode? c = some w) : w.code = c := by
  unfold ofCode? at h
  have same := List.find?_some h
  exact beq_iff_eq.mp same

theorem Weekday.code_inj {v w : Weekday} : v.code = w.code ↔ v = w := by
  constructor
  · intro same
    have read := congrArg ofCode? same
    rw [ofCode?_code, ofCode?_code] at read
    exact Option.some.inj read
  · exact congrArg code

theorem Frequency.ofName?_name (f : Frequency) : ofName? f.name = some f := by
  cases f <;> decide

theorem RuleKey.ofName?_name (k : RuleKey) : ofName? k.name = some k := by
  cases k <;> decide

namespace Rule

open DateText (Standpoint)

/-- A rule in whose text nothing but the end can be missing: every part is present or absent in
the one form it is read in, numerals have no more digits than are read, and weekdays are
weekdays. -/
structure IsPlain (r : Rule) : Prop where
  frequency : r.frequency.isSome
  interval : ∃ n, r.interval = some n ∧ 1 ≤ n ∧ Integer.IsShort n
  byDay : ∀ c ∈ r.byDay, ∃ w : Weekday, w.code = c
  byMonthDay : ∀ n ∈ r.byMonthDay, Integer.IsShort n
  byMonth : ∀ n ∈ r.byMonth, Integer.IsShort n
  count : ∀ n, r.count = some n → n ≠ 0 ∧ Integer.IsShort n
  ends : ∀ s, r.ends = some s → ∃ d, s = .day d ∧ 1000 ≤ d.year

/-! The text as a list of parts. -/

/-- A part for a list that may be empty. -/
def listPart (key : RuleKey) (items : List Text) : List Text :=
  if items.isEmpty then [] else [part key (Text.joined [','] items)]

def intervalParts (r : Rule) : List Text :=
  match r.interval with
  | some n => if 1 < n then [part .interval (decimalInt n)] else []
  | none => []

def endingParts (r : Rule) : List Text :=
  match r.count, r.ends with
  | some n, _ => [part .count (decimalInt n)]
  | none, some s => [part .ends s.date.compactText]
  | none, none => []

/-- The parts behind the frequency. -/
def furtherParts (r : Rule) : List Text :=
  r.intervalParts ++ listPart .byDay r.byDay ++ listPart .byMonthDay (r.byMonthDay.map decimalInt)
    ++ listPart .byMonth (r.byMonth.map decimalInt) ++ r.endingParts

theorem optionalPart_integers {ns : List Int} (key : RuleKey)
    (h : ∀ n ∈ ns, Integer.IsShort n) :
    optionalPart key (integersText ns) = .ok (listPart key (ns.map decimalInt)) := by
  cases ns with
  | nil => rfl
  | cons n ns =>
      rw [optionalPart, integersText, Integer.writeAll_of_isShort _ h]
      rfl

theorem optionalPart_interval {r : Rule} (h : r.IsPlain) :
    optionalPart .interval r.intervalText = .ok r.intervalParts := by
  obtain ⟨n, given, _, short⟩ := h.interval
  rw [optionalPart, intervalText, intervalParts, given]
  dsimp only
  split
  · rw [Integer.write_of_isShort short]
    rfl
  · rfl

theorem boundParts_eq {r : Rule} (h : r.IsPlain) : r.boundParts = .ok r.endingParts := by
  rw [boundParts, endingParts, count?]
  cases given : r.count with
  | none => cases r.ends <;> rfl
  | some n =>
      obtain ⟨nonzero, short⟩ := h.count n given
      have set : Option.filter (fun n => decide (n ≠ 0)) (some n) = some n := by
        rw [Option.filter_some, if_pos (decide_eq_true nonzero)]
      simp only [set]
      rw [Integer.write_of_isShort short]
      rfl

theorem write_eq {r : Rule} (h : r.IsPlain) {f : Frequency} (given : r.frequency = some f) :
    r.write = .ok (Text.joined [';'] (part .frequency f.name :: r.furtherParts)) := by
  rw [write, given]
  dsimp only
  rw [optionalPart_interval h, optionalPart_integers _ h.byMonthDay,
    optionalPart_integers _ h.byMonth, boundParts_eq h]
  simp only [furtherParts, listPart, List.cons_append]
  rfl

/-! The characters of a rule text. -/

/-- A character that may stand in a part: from the comma to the capitals, but no semicolon. -/
def IsPartChar (c : Char) : Prop := 44 ≤ c.toNat ∧ c.toNat ≤ 90 ∧ c.toNat ≠ 59

instance (c : Char) : Decidable (IsPartChar c) := inferInstanceAs (Decidable (_ ∧ _))

theorem isPartChar_name (k : RuleKey) : ∀ c ∈ k.name, IsPartChar c ∧ c ≠ '=' := by
  have all : (k.name.all fun c => decide (IsPartChar c ∧ c ≠ '=')) = true := by
    cases k <;> decide
  intro c member
  exact of_decide_eq_true (List.all_eq_true.mp all c member)

theorem isPartChar_frequency (f : Frequency) : ∀ c ∈ f.name, IsPartChar c := by
  have all : (f.name.all fun c => decide (IsPartChar c)) = true := by
    cases f <;> decide
  intro c member
  exact of_decide_eq_true (List.all_eq_true.mp all c member)

theorem isPartChar_code (w : Weekday) : ∀ c ∈ w.code, IsPartChar c ∧ c ≠ ',' := by
  have all : (w.code.all fun c => decide (IsPartChar c ∧ c ≠ ',')) = true := by
    cases w <;> decide
  intro c member
  exact of_decide_eq_true (List.all_eq_true.mp all c member)

theorem isPartChar_decimalInt {n : Int} {c : Char} (h : c ∈ decimalInt n) :
    IsPartChar c ∧ c ≠ ',' := by
  have bounds := Integer.decimalInt_bounds h
  refine ⟨⟨by omega, by omega, by omega⟩, ?_⟩
  rintro rfl
  exact absurd bounds.1 (by decide)

theorem isPartChar_compactText {d : Date} {c : Char} (h : c ∈ d.compactText) : IsPartChar c := by
  have := digit_bounds (Date.isDigit_of_mem_compactText h)
  exact ⟨by omega, by omega, by omega⟩

theorem isPartChar_joined {items : List Text} (h : ∀ t ∈ items, ∀ c ∈ t, IsPartChar c) {c : Char}
    (member : c ∈ Text.joined [','] items) : IsPartChar c := by
  rcases Text.mem_joined member with rfl | ⟨t, inside, letter⟩
  · exact ⟨by decide, by decide, by decide⟩
  · exact h t inside c letter

theorem isPartChar_part {key : RuleKey} {value : Text} (h : ∀ c ∈ value, IsPartChar c) {c : Char}
    (member : c ∈ part key value) : IsPartChar c := by
  rcases List.mem_append.mp member with name | rest
  · exact (isPartChar_name key c name).1
  · rcases List.mem_cons.mp rest with rfl | inside
    · exact ⟨by decide, by decide, by decide⟩
    · exact h c inside

theorem IsPartChar.notBlank {c : Char} (h : IsPartChar c) : isBlank c = false :=
  isBlank_of_printing (Nat.le_trans (by decide) h.1) (Nat.le_trans h.2.1 (by decide))

theorem isPartChar_listPart {key : RuleKey} {items : List Text}
    (h : ∀ t ∈ items, ∀ c ∈ t, IsPartChar c) :
    ∀ t ∈ listPart key items, ∀ c ∈ t, IsPartChar c := by
  intro t member c inside
  unfold listPart at member
  split at member
  · cases member
  · rw [List.mem_singleton.mp member] at inside
    exact isPartChar_part (fun d among => isPartChar_joined h among) inside

theorem isPartChar_numerals (ns : List Int) : ∀ t ∈ ns.map decimalInt, ∀ c ∈ t, IsPartChar c := by
  intro t member c inside
  obtain ⟨n, _, rfl⟩ := List.mem_map.mp member
  exact (isPartChar_decimalInt inside).1

theorem isPartChar_codes {r : Rule} (h : r.IsPlain) : ∀ t ∈ r.byDay, ∀ c ∈ t, IsPartChar c := by
  intro t member c inside
  obtain ⟨w, rfl⟩ := h.byDay t member
  exact (isPartChar_code w c inside).1

theorem isPartChar_furtherParts {r : Rule} (h : r.IsPlain) :
    ∀ t ∈ r.furtherParts, ∀ c ∈ t, IsPartChar c := by
  have interval : ∀ t ∈ r.intervalParts, ∀ c ∈ t, IsPartChar c := by
    obtain ⟨n, given, _, _⟩ := h.interval
    intro t member c inside
    simp only [intervalParts, given] at member
    split at member
    · rw [List.mem_singleton.mp member] at inside
      exact isPartChar_part (fun d digit => (isPartChar_decimalInt digit).1) inside
    · cases member
  have ending : ∀ t ∈ r.endingParts, ∀ c ∈ t, IsPartChar c := by
    intro t member c inside
    unfold endingParts at member
    split at member
    · rw [List.mem_singleton.mp member] at inside
      exact isPartChar_part (fun d digit => (isPartChar_decimalInt digit).1) inside
    · rw [List.mem_singleton.mp member] at inside
      exact isPartChar_part (fun d digit => isPartChar_compactText digit) inside
    · cases member
  intro t member
  simp only [furtherParts, List.mem_append] at member
  rcases member with (((first | days) | monthDays) | months) | last
  · exact interval t first
  · exact isPartChar_listPart (isPartChar_codes h) t days
  · exact isPartChar_listPart (isPartChar_numerals _) t monthDays
  · exact isPartChar_listPart (isPartChar_numerals _) t months
  · exact ending t last

/-! Reading the parts. -/

/-- A text of parts is cut into its parts; its first letter keeps it apart from the label. -/
theorem parts_joined {value : Text} {more : List Text} (hv : ∀ c ∈ value, IsPartChar c)
    (hm : ∀ t ∈ more, ∀ c ∈ t, IsPartChar c) :
    parts (Text.joined [';'] (part .frequency value :: more)) = part .frequency value :: more := by
  have each : ∀ t ∈ part .frequency value :: more, ∀ c ∈ t, IsPartChar c := by
    intro t member c inside
    rcases List.mem_cons.mp member with rfl | later
    · exact isPartChar_part hv inside
    · exact hm t later c inside
  have chars : ∀ c ∈ Text.joined [';'] (part .frequency value :: more),
      44 ≤ c.toNat ∧ c.toNat ≤ 90 := by
    intro c member
    rcases Text.mem_joined member with rfl | ⟨t, inside, letter⟩
    · decide
    · exact ⟨(each t inside c letter).1, (each t inside c letter).2.1⟩
  have bare : (Text.joined [';'] (part .frequency value :: more)).strip
      = Text.joined [';'] (part .frequency value :: more) := by
    apply Text.strip_eq_self
    intro c member
    have := chars c member
    exact isBlank_of_printing (by omega) (by omega)
  have capitals : (Text.joined [';'] (part .frequency value :: more)).upper
      = Text.joined [';'] (part .frequency value :: more) := by
    apply Text.upper_eq_self
    intro c member
    have := chars c member
    omega
  have unlabelled : "RRULE:".toList.isPrefixOf
      (Text.joined [';'] (part .frequency value :: more)) = false := by
    cases more with
    | nil => rw [Text.joined_singleton]; rfl
    | cons next more => rw [Text.joined_cons_cons]; rfl
  rw [parts, bare, capitals, unlabelled]
  apply Text.pieces_joined (List.cons_ne_nil _ _)
  intro t member inside
  exact (each t member ';' inside).2.2 rfl

theorem withPart_part (here : Standpoint) (r : Rule) (key : RuleKey) {value : Text}
    (h : ∀ c ∈ value, IsPartChar c) :
    r.withPart here (part key value) = r.withValue here key value := by
  have named : Text.cut? '=' (part key value) = some (key.name, value) :=
    Text.cut?_append value fun member => (isPartChar_name key '=' member).2 rfl
  have bare : value.strip = value := Text.strip_eq_self fun c member => (h c member).notBlank
  rw [withPart, named]
  dsimp only
  rw [RuleKey.ofName?_name, bare]

theorem foldlM_part (here : Standpoint) (r : Rule) (key : RuleKey) {value : Text}
    (h : ∀ c ∈ value, IsPartChar c) :
    [part key value].foldlM (withPart here) r = r.withValue here key value := by
  rw [List.foldlM_cons, withPart_part here r key h]
  simp only [List.foldlM_nil, bind_pure]

theorem weekdayCodes_joined {codes : List Text} (nonempty : codes ≠ [])
    (h : ∀ c ∈ codes, ∃ w : Weekday, w.code = c) :
    weekdayCodes (Text.joined [','] codes) = codes := by
  have clean : ∀ t ∈ codes, ',' ∉ t := by
    intro t member inside
    obtain ⟨w, rfl⟩ := h t member
    exact (isPartChar_code w ',' inside).2 rfl
  rw [weekdayCodes, Text.pieces_joined nonempty clean]
  clear nonempty clean
  induction codes with
  | nil => rfl
  | cons t ts ih =>
      obtain ⟨w, rfl⟩ := h t List.mem_cons_self
      have bare : w.code.strip.upper = w.code := by cases w <;> decide
      rw [List.filterMap_cons, bare, Weekday.ofCode?_code]
      simp only [Option.map_some]
      rw [ih fun t later => h t (List.mem_cons_of_mem _ later)]

theorem integers_joined {ns : List Int} (nonempty : ns ≠ [])
    (h : ∀ n ∈ ns, Integer.IsShort n) :
    integers (Text.joined [','] (ns.map decimalInt)) = ns := by
  have clean : ∀ t ∈ ns.map decimalInt, ',' ∉ t := by
    intro t member inside
    obtain ⟨n, _, rfl⟩ := List.mem_map.mp member
    exact (isPartChar_decimalInt inside).2 rfl
  rw [integers, Text.pieces_joined (fun empty => nonempty (List.map_eq_nil_iff.mp empty)) clean]
  clear nonempty clean
  induction ns with
  | nil => rfl
  | cons n ns ih =>
      rw [List.map_cons, List.filterMap_cons, Integer.read?_decimalInt (h n List.mem_cons_self)]
      dsimp only
      rw [ih fun m later => h m (List.mem_cons_of_mem n later)]

theorem read_listPart {items : List Text} (h : ∀ t ∈ items, ∀ c ∈ t, IsPartChar c) (here : Standpoint)
    (key : RuleKey) (s : Rule) :
    (listPart key items).foldlM (withPart here) s
      = if items.isEmpty then .ok s else s.withValue here key (Text.joined [','] items) := by
  unfold listPart
  split
  · rfl
  · exact foldlM_part here s key fun c inside => isPartChar_joined h inside

section Reading

variable {r : Rule} (plain : r.IsPlain) (here : Standpoint)
include plain

theorem read_interval {s : Rule} (first : s.interval = some 1) :
    r.intervalParts.foldlM (withPart here) s = .ok { s with interval := r.interval } := by
  obtain ⟨n, given, positive, short⟩ := plain.interval
  rw [intervalParts, given]
  dsimp only
  split
  · rw [foldlM_part here s .interval fun c inside => (isPartChar_decimalInt inside).1,
      withValue, Integer.read?_decimalInt short]
    rfl
  · -- An interval of one is left out of the text; it is the one a reading starts from.
    have one : n = 1 := by omega
    rw [List.foldlM_nil, one, ← first]
    rfl

theorem read_byDay {s : Rule} (first : s.byDay = []) :
    (listPart .byDay r.byDay).foldlM (withPart here) s = .ok { s with byDay := r.byDay } := by
  rw [read_listPart (isPartChar_codes plain)]
  split
  · rename_i empty
    rw [List.isEmpty_iff.mp empty, ← first]
  · rename_i filled
    rw [withValue, weekdayCodes_joined (mt List.isEmpty_iff.mpr filled) plain.byDay]

theorem read_ending {s : Rule} (counted : s.count = none) (ended : s.ends = none) :
    r.endingParts.foldlM (withPart here) s
      = .ok { s with count := r.count, ends := if r.count.isSome then none else r.ends } := by
  unfold endingParts
  split
  · rename_i _ n given
    rw [foldlM_part here s .count fun c inside => (isPartChar_decimalInt inside).1,
      withValue, Integer.read?_decimalInt (plain.count n given).2, given, ← ended]
    rfl
  · rename_i e given ends
    obtain ⟨d, rfl, year⟩ := plain.ends e ends
    rw [foldlM_part here s .ends fun c inside => isPartChar_compactText inside,
      withValue, Stamp.date, DateText.day?_compactText year, given, ends]
    cases s
    cases counted
    rfl
  · rename_i given ends
    rw [List.foldlM_nil, given, ends]
    cases s
    cases counted
    cases ended
    rfl

theorem read_byMonthDay {s : Rule} (first : s.byMonthDay = []) :
    (listPart .byMonthDay (r.byMonthDay.map decimalInt)).foldlM (withPart here) s
      = .ok { s with byMonthDay := r.byMonthDay } := by
  rw [read_listPart (isPartChar_numerals _), List.isEmpty_map]
  split
  · rename_i empty
    rw [List.isEmpty_iff.mp empty, ← first]
  · rename_i filled
    rw [withValue, integers_joined (mt List.isEmpty_iff.mpr filled) plain.byMonthDay]

theorem read_byMonth {s : Rule} (first : s.byMonth = []) :
    (listPart .byMonth (r.byMonth.map decimalInt)).foldlM (withPart here) s
      = .ok { s with byMonth := r.byMonth } := by
  rw [read_listPart (isPartChar_numerals _), List.isEmpty_map]
  split
  · rename_i empty
    rw [List.isEmpty_iff.mp empty, ← first]
  · rename_i filled
    rw [withValue, integers_joined (mt List.isEmpty_iff.mpr filled) plain.byMonth]

end Reading

/-- The rule that a rule's text tells: an end beside a count is left out. -/
def told (r : Rule) : Rule := { r with ends := if r.count.isSome then none else r.ends }

/-- Reading the parts of a plain rule one after the other. -/
theorem foldlM_parts {r : Rule} (plain : r.IsPlain) (here : Standpoint) {f : Frequency}
    (given : r.frequency = some f) :
    (part .frequency f.name :: r.furtherParts).foldlM (withPart here) { frequency := none }
      = .ok r.told := by
  have start : withPart here { frequency := none } (part .frequency f.name)
      = .ok { frequency := some f } := by
    rw [withPart_part here _ .frequency (isPartChar_frequency f), withValue,
      Frequency.ofName?_name]
    rfl
  rw [List.foldlM_cons, start, ok_bind]
  simp only [furtherParts, List.foldlM_append]
  rw [read_interval plain here rfl, ok_bind, read_byDay plain here rfl, ok_bind,
    read_byMonthDay plain here rfl, ok_bind, read_byMonth plain here rfl, ok_bind,
    read_ending plain here rfl rfl, told, ← given]

theorem read?_joined {r : Rule} (plain : r.IsPlain) (here : Standpoint) {f : Frequency}
    (given : r.frequency = some f) :
    read? here (Text.joined [';'] (part .frequency f.name :: r.furtherParts))
      = .ok (some r.told) := by
  rw [read?, parts_joined (isPartChar_frequency f) (isPartChar_furtherParts plain),
    foldlM_parts plain here given]
  exact congrArg Except.ok (if_pos plain.frequency)

theorem read?_of_write {r : Rule} {t : Text} (plain : r.IsPlain) (written : r.write = .ok t)
    (here : Standpoint) : read? here t = .ok (some r.told) := by
  obtain ⟨f, given⟩ := Option.isSome_iff_exists.mp plain.frequency
  rw [write_eq plain given] at written
  cases written
  exact read?_joined plain here given

/-- The text of a plain rule is read as the rule, less the end where there is a count as well. -/
theorem read?_write {r : Rule} (plain : r.IsPlain) (here : Standpoint) :
    ∃ t, r.write = .ok t
      ∧ read? here t
        = .ok (some (if r.count.isSome ∧ r.ends.isSome then { r with ends := none } else r)) := by
  obtain ⟨f, given⟩ := Option.isSome_iff_exists.mp plain.frequency
  refine ⟨_, write_eq plain given, ?_⟩
  rw [read?_of_write plain (write_eq plain given), told]
  rcases r with ⟨frequency, interval, byDay, byMonthDay, byMonth, count, ends⟩
  cases count <;> cases ends <;> rfl

/-- Every other week on Monday and Wednesday, on the last day of the month only, five times and
not after 31 March 2025. -/
def fortnightly : Rule where
  frequency := some .weekly
  interval := some 2
  byDay := [Weekday.monday.code, Weekday.wednesday.code]
  byMonthDay := [-1]
  count := some 5
  ends := some (.day ⟨2025, 3, 31, by decide⟩)

theorem isPlain_fortnightly : fortnightly.IsPlain where
  frequency := rfl
  interval := ⟨2, rfl, by decide, Integer.isShort_of_fitsWord (by decide)⟩
  byDay := by
    intro c member
    simp only [fortnightly, List.mem_cons, List.not_mem_nil, or_false] at member
    rcases member with rfl | rfl
    · exact ⟨.monday, rfl⟩
    · exact ⟨.wednesday, rfl⟩
  byMonthDay := by
    intro n member
    rw [List.mem_singleton.mp member]
    exact Integer.isShort_of_fitsWord (by decide)
  byMonth := fun n member => nomatch member
  count := by
    intro n given
    cases given
    exact ⟨by decide, Integer.isShort_of_fitsWord (by decide)⟩
  ends := by
    intro s given
    cases given
    exact ⟨_, rfl, by decide⟩

theorem read?_write_fortnightly :
    fortnightly.IsPlain ∧ ∃ t, fortnightly.write = .ok t
      ∧ read? .first t
        = .ok (some (if fortnightly.count.isSome ∧ fortnightly.ends.isSome
            then { fortnightly with ends := none } else fortnightly)) :=
  ⟨isPlain_fortnightly, read?_write isPlain_fortnightly .first⟩

end Rule

end Recurrence
