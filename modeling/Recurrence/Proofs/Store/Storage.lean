import Recurrence.Proofs.Series.Window
import Recurrence.Proofs.Store.Outcome
import Recurrence.Proofs.Store.Reading
import Recurrence.Proofs.Store.Soundness

/-! Storing a series loses nothing: whatever is done afterwards, unless its rule is set again, it is
split or it is deleted, the series is read back as it was given, and its occurrences in a window
are those of the given series under the exceptions that are stored for it. -/

namespace Recurrence

/-- The override that a row with a compact date holds. -/
def ExceptionRow.told (x : ExceptionRow) : Override where
  date := (DateText.day? .first x.date).toOption.join.getD Date.first
  kind := x.kind
  replacement := x.replacement.map decimalInt

theorem ExceptionRow.told_of_holds {x : ExceptionRow} {o : Override} (h : x.Holds o) :
    x.told = o := by
  obtain ⟨date, year, kind, replacement⟩ := h
  rcases o with ⟨_, _, _⟩
  dsimp only at date year kind replacement
  rw [told, date, DateText.day?_compactText year, kind, replacement]
  rfl

namespace Tables

/-- An event has one exception for a text at most. -/
theorem Sound.exceptionsOf_distinct {t : Tables} {id : Int} (h : t.Sound) :
    (t.exceptionsOf id).Pairwise fun x y => x.date ≠ y.date := by
  rw [exceptionsOf, (List.mergeSort_perm _ _).pairwise_iff (by exact Ne.symm)]
  apply (h.keyed.filter _).imp_of_mem
  intro x y hx hy apart same
  have px := beq_iff_eq.mp (List.mem_filter.mp hx).2
  have py := beq_iff_eq.mp (List.mem_filter.mp hy).2
  exact apart ⟨px.trans py.symm, same⟩

/-- The tables hold the row of a series, and exceptions to it on days of the year 1000 or later
only. -/
structure Stores (row : EventRow) (t : Tables) : Prop where
  sound : t.Sound
  kept : row ∈ t.events
  days : ∀ x ∈ t.exceptions, x.parent = row.id → ∃ d : Date, 1000 ≤ d.year ∧ x.date = d.compactText

namespace Stores

variable {row : EventRow} {t t' : Tables}

theorem holds_told (h : t.Stores row) {x : ExceptionRow} (member : x ∈ t.exceptions)
    (owned : x.parent = row.id) : x.Holds x.told := by
  obtain ⟨d, year, date⟩ := h.days x member owned
  have same : x.told.date = d := by
    rw [ExceptionRow.told, date, DateText.day?_compactText year]
    rfl
  exact ⟨same.symm ▸ date, same.symm ▸ year, rfl, rfl⟩

theorem mem_exceptionsOf {id : Int} {x : ExceptionRow} :
    x ∈ t.exceptionsOf id ↔ x ∈ t.exceptions ∧ x.parent = id := by
  rw [exceptionsOf, List.mem_mergeSort, List.mem_filter, beq_iff_eq]

theorem mapM_exceptionsOf (h : t.Stores row) (here : DateText.Standpoint) :
    (t.exceptionsOf row.id).mapM (ExceptionRow.toOverride here)
      = .ok ((t.exceptionsOf row.id).map ExceptionRow.told) := by
  apply mapM_eq_ok
  intro x member
  obtain ⟨there, owned⟩ := mem_exceptionsOf.mp member
  exact ExceptionRow.toOverride_of_holds (h.holds_told there owned)
    (h.sound.replacements x there) here

theorem mem_told (h : t.Stores row) (o : Override) :
    o ∈ (t.exceptionsOf row.id).map ExceptionRow.told
      ↔ ∃ x ∈ t.exceptions, x.parent = row.id ∧ x.Holds o := by
  rw [List.mem_map]
  constructor
  · rintro ⟨x, member, rfl⟩
    obtain ⟨there, owned⟩ := mem_exceptionsOf.mp member
    exact ⟨x, there, owned, h.holds_told there owned⟩
  · rintro ⟨x, there, owned, holds⟩
    exact ⟨x, mem_exceptionsOf.mpr ⟨there, owned⟩, ExceptionRow.told_of_holds holds⟩

theorem told_distinct (h : t.Stores row) :
    ((t.exceptionsOf row.id).map ExceptionRow.told).Pairwise fun a b => a.date ≠ b.date := by
  rw [List.pairwise_map]
  apply h.sound.exceptionsOf_distinct.imp_of_mem
  intro x y hx hy apart same
  obtain ⟨there, owned⟩ := mem_exceptionsOf.mp hx
  obtain ⟨there', owned'⟩ := mem_exceptionsOf.mp hy
  apply apart
  rw [(h.holds_told there owned).date, (h.holds_told there' owned').date, same]

/-- Taking rows out keeps the series if it keeps its row. -/
theorem of_thins (h : t.Stores row) (thin : t.ThinsTo t') (kept : row ∈ t'.events) :
    t'.Stores row where
  sound := h.sound.of_thins thin
  kept := kept
  days := fun x member => h.days x (thin.mem_exceptions member)

/-- An event that belongs to no other goes only where it passes the test itself. -/
theorem drop (h : t.Stores row) (free : row.parent = none) (test : EventRow → Bool)
    (spared : test row = false) : (t.deletion test).left.Stores row := by
  have others : t.TakesOnly (· ≠ row.id) (t.deletion test).left := by
    apply takesOnly_deletion
    · intro e member hit same
      rw [h.sound.eq_of_id member h.kept same, spared] at hit
      cases hit
    · intro e member p owner _ same
      rw [h.sound.eq_of_id member h.kept same, free] at owner
      cases owner
  apply h.of_thins (t.thinsTo_deletion test)
  by_contra out
  exact others.events row h.kept out rfl

theorem putException (h : t.Stores row) {parent : Int} {day : Date} {kind : OverrideKind}
    {replacement : Option Int} (fits : replacement.all fitsWord = true)
    (year : parent = row.id → 1000 ≤ day.year)
    (made : t.putException parent day.compactText kind replacement = .ok t') : t'.Stores row := by
  obtain ⟨-, events, -, written⟩ := putException_eq_ok made
  refine ⟨h.sound.putException fits made, events ▸ h.kept, ?_⟩
  intro y member owned
  rcases written with changed | ⟨-, added⟩
  · rw [changed] at member
    obtain ⟨x, old, rfl⟩ := List.mem_map.mp member
    split at owned
    · rename_i here
      rw [if_pos here]
      exact h.days x old owned
    · rename_i elsewhere
      rw [if_neg elsewhere]
      exact h.days x old owned
  · rw [added] at member
    rcases List.mem_append.mp member with old | new
    · exact h.days y old owned
    · rw [List.mem_singleton.mp new] at owned ⊢
      exact ⟨day, year owned, rfl⟩

end Stores

theorem Sound.added {t t' : Tables} {c : Conditions} {title : Option Text} {start finish : Moment}
    {rule : Option Rule} {parent : Option Int} {id : Int} (h : t.Sound)
    (made : t.added c title start finish rule parent = .ok (t', id)) : t'.Sound := by
  obtain ⟨columns, -, made⟩ := bind_eq_ok.mp made
  obtain ⟨count, -, made⟩ := bind_eq_ok.mp made
  obtain ⟨owner, -, made⟩ := bind_eq_ok.mp made
  exact h.insertEvent made fun e given => (newRow_eq_ok given).1

theorem exists_tells_of_added {t t' : Tables} {c : Conditions} {title : Text} {start finish : Moment}
    {rule : Rule} {id : Int} (h : t.added c (some title) start finish (some rule) none = .ok (t', id)) :
    ∃ row, row.id = id ∧ row.Tells title start finish rule ∧ id = t.lastEvent + 1
      ∧ t' = { t with events := t.events ++ [row], lastEvent := id } := by
  obtain ⟨columns, row, given, -, -, number, made, left⟩ := added_eq_ok h
  obtain ⟨text, written, rfl⟩ := map_eq_ok.mp given
  cases made
  exact ⟨_, rfl, ⟨rfl, rfl, rfl, ⟨text, written, rfl⟩, rfl, rfl⟩, number, left⟩

end Tables

namespace Store

/-- A call leaves a series alone but for overrides on days of the year 1000 or later: it does not
set its rule, split it or delete it. -/
structure Call.Spares (id : Int) (call : Call) : Prop where
  ruled : call.ruled? ≠ some id
  deleted : call.deleted? ≠ some id
  puts : call.overridden? = some id → ∀ day kind, call.put? = some (day, kind) → 1000 ≤ day.year

theorem Call.Makes.keeps_stores {call : Call} {w : Write} {row : EventRow} (made : call.Makes w)
    (spares : call.Spares row.id) (free : row.parent = none) : w.Keeps (Tables.Stores row) := by
  intro t t' h applied
  have sound := made.keeps_sound t t' h.sound applied
  cases made with
  | insert e =>
      obtain ⟨⟨after, id⟩, inserted, rfl⟩ := map_eq_ok.mp applied
      obtain ⟨-, -, _, -, rfl⟩ := Tables.insertEvent_eq_ok inserted
      exact ⟨sound, List.mem_append_left _ h.kept, h.days⟩
  | setRule id columns modified ruled =>
      cases applied
      have other : row.id ≠ id := by
        rintro rfl
        exact spares.ruled ruled
      refine ⟨sound, ?_, h.days⟩
      apply List.mem_map.mpr
      refine ⟨row, h.kept, ?_⟩
      rw [beq_false_of_ne other, if_neg Bool.false_ne_true]
  | put id day kind replacement overridden put fits =>
      apply h.putException fits _ applied
      rintro rfl
      exact spares.puts overridden day kind put
  | dropChild child id =>
      cases applied
      apply h.drop free
      rw [free]
      exact Bool.and_false _
  | deleteChildren id =>
      cases applied
      apply h.drop free
      rw [free]
      rfl
  | deleteEvent id deleted =>
      cases applied
      apply h.drop free
      apply beq_false_of_ne
      rintro rfl
      exact spares.deleted deleted
  | removeException | deleteOwn =>
      cases applied
      exact h.of_thins (t.thinsTo_deleteExceptions _) h.kept

variable {s s₁ s₂ : Store} {c : Conditions} {title : Text} {start finish : Moment} {rule : Rule}
  {today : Option Date} {id : Int}

theorem createSeries_eq_ok
    (created : s.call (createSeries c (some title) start finish rule today) = (.ok id, s₁)) :
    rule.check (today.getD c.today) = .ok ()
      ∧ ∃ t notes, s.tables.added c (some title) start finish (some rule) none = .ok (t, id)
        ∧ s₁ = ⟨t, t, notes⟩ := by
  obtain ⟨notes, outcome⟩ := s.call_createSeries c (some title) start finish rule today
  obtain ⟨t, both, left⟩ := settle_eq_ok (outcome.symm.trans created)
  obtain ⟨_, checked, added⟩ := bind_eq_ok.mp both
  exact ⟨checked, t, notes, added, left⟩

/-- A series is stored where the check and the tables let it pass. -/
theorem exists_createSeries
    (added : Except.map Prod.snd (do
      rule.check (today.getD c.today)
      s.tables.added c (some title) start finish (some rule) none) = .ok id) :
    ∃ s₁, s.call (createSeries c (some title) start finish rule today) = (.ok id, s₁) := by
  obtain ⟨notes, outcome⟩ := s.call_createSeries c (some title) start finish rule today
  obtain ⟨⟨t, _⟩, made, rfl⟩ := map_eq_ok.mp added
  rw [made] at outcome
  exact ⟨_, outcome⟩

theorem reachable_of_createSeries (reachable : s.Reachable)
    (created : s.call (createSeries c (some title) start finish rule today) = (.ok id, s₁)) :
    s₁.Reachable := by
  have after : s.after c (.create (some title) start finish rule today) = s₁ :=
    congrArg Prod.snd created
  rw [← after]
  exact .call c _ reachable trivial

/-- The store that a new series leaves holds its row, and no exceptions to it. -/
theorem stores_of_createSeries (reachable : s.Reachable)
    (created : s.call (createSeries c (some title) start finish rule today) = (.ok id, s₁)) :
    ∃ row : EventRow, row.id = id ∧ row.Tells title start finish rule
      ∧ s₁.Holds (Tables.Stores row) := by
  have sound := (reachable_of_createSeries reachable created).sound
  obtain ⟨-, t, notes, added, rfl⟩ := createSeries_eq_ok created
  obtain ⟨row, same, tells, number, rfl⟩ := Tables.exists_tells_of_added added
  have fresh : s.tables.lastEvent < row.id := by omega
  have stores : Tables.Stores row
      { s.tables with events := s.tables.events ++ [row], lastEvent := id } := by
    refine ⟨sound.2, List.mem_append_right _ List.mem_cons_self, ?_⟩
    intro x member owned
    exact absurd owned (reachable.sound.2.parent_ne_of_fresh fresh x member)
  exact ⟨row, same, tells, stores, stores⟩

/-- A store shows a series under an id: its event is the series, the overrides read for it are those
that its rows hold, one a day at most, and its occurrences in a window are those that the series
has under these overrides, if its expansion does not fail. -/
structure Shows (s : Store) (c : Conditions) (id : Int) (title : Text) (start finish : Moment)
    (rule : Rule) : Prop where
  event : ∃ e, s.call (getEvent c id) = (.ok e, s) ∧ e.Tells id title start finish
    ∧ e.rule? c.standpoint = .ok (some rule)
  occurrences : ∃ stored, s.call (getExceptions c id) = (.ok stored, s)
    ∧ (∀ o, o ∈ stored ↔ ∃ x ∈ s.tables.exceptions, x.parent = id ∧ x.Holds o)
    ∧ stored.Pairwise (fun a b => a.date ≠ b.date)
    ∧ ∀ first last : Moment, first.offset = none → last.offset = none →
      match Series.expand { start, finish, rule } (OverrideSet.ofList stored)
          { queryEnd := some (.moment last), maxInstances := c.queryLimit,
            horizonYears := c.horizonYears } with
      | .error fault => (s.call (getOccurrences c id first last)).1 = .error fault
      | .ok all => ∃ inside, occurrencesWithin first last all = .ok inside
        ∧ (s.call (getOccurrences c id first last)).1 = .ok (inside, some rule)

/-- Storing a series loses nothing: after any calls that spare it, the store shows the series that
was given. -/
theorem shows_of_createSeries (reachable : s.Reachable) (hs : start.IsStorable)
    (hf : finish.IsStorable) (interval : rule.interval.isSome)
    (ends : ∀ e, rule.ends = some e → ∃ d, e = .day d ∧ 1000 ≤ d.year)
    (created : s.call (createSeries c (some title) start finish rule today) = (.ok id, s₁))
    (later : s₁.Reaches (Call.Spares id) s₂) (c' : Conditions) :
    s₂.Shows c' id title start finish rule := by
  obtain ⟨row, rfl, tells, held⟩ := stores_of_createSeries reachable created
  obtain ⟨checked, -⟩ := createSeries_eq_ok created
  obtain ⟨text, written, -⟩ := tells.ruleText
  have plain := Rule.isPlain_of_passes (Rule.passes_of_check checked) written interval ends
  -- From here on only the rows count, and not the calls that led to them.
  have stores : Tables.Stores row s₂.tables := by
    have kept := later.holds held fun call spares w made => made.keeps_stores spares tells.free
    exact kept.2
  have key : storedInteger row.id = .ok row.id :=
    storedInteger_eq_ok.mpr ⟨stores.sound.fitsWord_id stores.kept, rfl⟩
  obtain ⟨e, read, told, ruled⟩ := Event.ofRow_of_tells tells hs hf plain c'.standpoint
  have event : s₂.tables.read c'.standpoint row.id = .ok e := by
    rw [Tables.read, key, ok_bind, stores.sound.event?_of_mem stores.kept]
    exact read
  have overrides : s₂.tables.overrides c'.standpoint row.id
      = .ok ((s₂.tables.exceptionsOf row.id).map ExceptionRow.told) := by
    rw [Tables.overrides, key, ok_bind, stores.mapM_exceptionsOf]
  refine ⟨⟨e, ?_, told, ruled c'.standpoint⟩, ⟨_, ?_, stores.mem_told, stores.told_distinct, ?_⟩⟩
  · rw [call_getEvent, event]
  · rw [call_getExceptions, overrides]
  · intro first last naiveFirst naiveLast
    obtain ⟨notes, answer⟩ := s₂.call_getOccurrences c' row.id first last
    rw [answer, Tables.occurrences, event, ok_bind, ruled, ok_bind]
    dsimp only
    rw [overrides, ok_bind, told.start, told.finish]
    split
    · rename_i fault failed
      rw [failed, error_bind]
    · rename_i all expanded
      have naive : ∀ o ∈ all, o.start.offset = none := by
        intro o member
        obtain ⟨day, begins⟩ := Series.start_of_expand expanded o member
        rw [begins]
        exact hs.offset
      refine ⟨_, occurrencesWithin_of_naive naiveFirst naiveLast naive, ?_⟩
      rw [expanded, ok_bind, occurrencesWithin_of_naive naiveFirst naiveLast naive, ok_bind, written,
        ok_bind]

/-- Eight o'clock on the last day of 2023. -/
def newYearsEve : Conditions where
  now := ⟨⟨2023, 12, 31, by decide⟩, ⟨8, 0, 0, 0, by decide⟩, none⟩
  base := ⟨2023, by decide⟩

/-- Every other week on Monday and Wednesday, five times and not after 31 March 2024. -/
def twiceAFortnight : Rule where
  frequency := some .weekly
  interval := some 2
  byDay := [Weekday.monday.code, Weekday.wednesday.code]
  count := some 5
  ends := some (.day ⟨2024, 3, 31, by decide⟩)

/-- The series is stored in an empty store and cancelled on one day. -/
theorem shows_twiceAFortnight :
    let start : Moment := ⟨⟨2024, 1, 1, by decide⟩, ⟨9, 0, 0, 0, by decide⟩, none⟩
    let finish : Moment := ⟨⟨2024, 1, 1, by decide⟩, ⟨10, 30, 0, 0, by decide⟩, none⟩
    ∃ s₁, Store.call {} (createSeries newYearsEve (some ['a']) start finish twiceAFortnight none)
        = (.ok 1, s₁)
      ∧ (s₁.after newYearsEve (.cancel 1 ⟨2024, 1, 3, by decide⟩)).Shows newYearsEve 1 ['a'] start finish
          twiceAFortnight := by
  intro start finish
  have added : Except.map Prod.snd (do
      twiceAFortnight.check newYearsEve.today
      Tables.added {} newYearsEve (some ['a']) start finish (some twiceAFortnight) none) = .ok 1 := by
    decide +kernel
  have passed := @exists_createSeries {} newYearsEve ['a'] start finish twiceAFortnight none 1 added
  obtain ⟨s₁, created⟩ := passed
  have spares : Call.Spares 1 (.cancel 1 ⟨2024, 1, 3, by decide⟩) := by
    refine ⟨nofun, nofun, ?_⟩
    intro _ day kind same
    cases same
    decide
  refine ⟨s₁, created, ?_⟩
  apply shows_of_createSeries .start ⟨rfl, rfl, by decide⟩ ⟨rfl, rfl, by decide⟩ rfl _ created
  · exact .call newYearsEve _ .start spares
  · intro e given
    cases given
    exact ⟨_, rfl, by decide⟩

end Store

end Recurrence
