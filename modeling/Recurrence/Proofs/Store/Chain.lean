import Recurrence.Proofs.Store.Unlooped

/-! Stores with events on any number of levels: an occurrence of a series is modified, then an
occurrence of the event that stands in for it, and so on. -/

namespace Recurrence.Store

theorem isDate_chainDay : IsDate 2024 1 5 := by decide

/-- The day on which all these events are modified. -/
def chainDay : Date := ⟨2024, 1, 5, isDate_chainDay⟩

def chainTop : EventRow where
  id := 1
  title := ['a']
  start := "20240101T090000".toList
  finish := "20240101T100000".toList
  ruleText := some "FREQ=DAILY".toList
  endDate := none
  count := none
  parent := none
  created := "20231231T080000".toList
  modified := "20231231T080000".toList

/-- The event that stands in for the one before it. -/
def chainLink (id : Int) : EventRow where
  id := id + 1
  title := ['a']
  start := "20240105T090000".toList
  finish := "20240105T100000".toList
  ruleText := none
  endDate := none
  count := none
  parent := some id
  created := "20231231T080000".toList
  modified := "20231231T080000".toList

/-- The exception that names it. -/
def chainName (id : Int) : ExceptionRow := ⟨id, id, chainDay.compactText, .modified, some (id + 1)⟩

/-- The ids of the events that another stands in for. -/
def chainIds (n : Nat) : List Int := (List.range n).map fun i : Nat => (i : Int) + 1

def chainTables (n : Nat) : Tables where
  events := chainTop :: (chainIds n).map chainLink
  exceptions := (chainIds n).map chainName
  lastEvent := n + 1
  lastException := n

/-- A daily series with so many levels of events below it. -/
def chain : Nat → Store
  | 0 => Store.after {} newYearsEve (.create (some ['a'])
      Series.everyOtherDay.start Series.everyOtherDay.finish everyDay none)
  | n + 1 => (chain n).after newYearsEve (.modify (n + 1) chainDay none none none)

theorem mem_chainIds {n : Nat} {i : Int} : i ∈ chainIds n ↔ 0 < i ∧ i ≤ n := by
  rw [chainIds, List.mem_map]
  constructor
  · rintro ⟨k, member, rfl⟩
    have := List.mem_range.mp member
    omega
  · rintro ⟨pos, le⟩
    exact ⟨(i - 1).toNat, List.mem_range.mpr (by omega), by omega⟩

theorem chainIds_succ (n : Nat) : chainIds (n + 1) = chainIds n ++ [(n : Int) + 1] := by
  rw [chainIds, List.range_succ, List.map_append]
  rfl

theorem chainTables_succ (n : Nat) : chainTables (n + 1) = {
    events := (chainTables n).events ++ [chainLink (n + 1)]
    exceptions := (chainTables n).exceptions ++ [chainName (n + 1)]
    lastEvent := n + 1 + 1
    lastException := n + 1 } := by
  rw [chainTables, chainIds_succ, List.map_append, List.map_append]
  rfl

theorem chain_run (n : Nat) : Reaches Call.IsGuided {} (chain n) := by
  induction n with
  | zero => exact .call _ _ .start trivial
  | succ n ih => exact .call _ _ ih trivial

theorem chain_unlooped (n : Nat) : (chain n).tables.Unlooped :=
  ((chain_run n).mono fun _ guided => guided.addsNoChild).unlooped.2

/-- The last event of a chain. -/
def chainLast : Nat → EventRow
  | 0 => chainTop
  | n + 1 => chainLink (n + 1)

theorem chainLast_id (n : Nat) : (chainLast n).id = n + 1 := by
  cases n <;> rfl

theorem chainLast_mem (n : Nat) : chainLast n ∈ (chainTables n).events := by
  cases n with
  | zero => exact List.mem_cons_self
  | succ n =>
      apply List.mem_cons_of_mem
      exact List.mem_map_of_mem (mem_chainIds.mpr ⟨by omega, by omega⟩)

/-- The event read from it has a title and a slot on the day. -/
theorem exists_ofRow_chainLast (n : Nat) :
    ∃ e, Event.ofRow newYearsEve.standpoint (chainLast n) = .ok e ∧ e.title = ['a']
      ∧ e.standInSpan chainDay none none = .ok (⟨chainDay, ⟨9, 0, 0, 0, by decide⟩, none⟩,
          ⟨chainDay, ⟨10, 0, 0, 0, by decide⟩, none⟩) := by
  cases n with
  | zero =>
      have begins : StoredMoment.read chainTop.start
          = .ok ⟨⟨2024, 1, 1, by decide⟩, ⟨9, 0, 0, 0, by decide⟩, none⟩ := by decide +kernel
      have finishes : StoredMoment.read chainTop.finish
          = .ok ⟨⟨2024, 1, 1, by decide⟩, ⟨10, 0, 0, 0, by decide⟩, none⟩ := by decide +kernel
      rw [chainLast, Event.ofRow, begins, ok_bind, finishes, ok_bind]
      refine ⟨_, rfl, rfl, ?_⟩
      rw [Event.standInSpan, Event.slot]
      dsimp only
      decide +kernel
  | succ n =>
      have begins : StoredMoment.read (chainLink (n + 1)).start
          = .ok ⟨chainDay, ⟨9, 0, 0, 0, by decide⟩, none⟩ := by
        change StoredMoment.read "20240105T090000".toList = _
        decide +kernel
      have finishes : StoredMoment.read (chainLink (n + 1)).finish
          = .ok ⟨chainDay, ⟨10, 0, 0, 0, by decide⟩, none⟩ := by
        change StoredMoment.read "20240105T100000".toList = _
        decide +kernel
      rw [chainLast, Event.ofRow, begins, ok_bind, finishes, ok_bind]
      refine ⟨_, rfl, rfl, ?_⟩
      rw [Event.standInSpan, Event.slot]
      dsimp only
      decide +kernel

/-- The event that is to stand in for an occurrence is added where there is room for its id. -/
theorem standing_of_read {t : Tables} {c : Conditions} {id : Int} {day : Date} {e : Event}
    {title : Option Text} {start finish : Option Moment} {begins ends : Moment}
    (read : t.read c.standpoint id = .ok e) (there : t.hasEvent id = true)
    (span : e.standInSpan day start finish = .ok (begins, ends))
    (room : fitsWord (t.lastEvent + 1) = true) :
    t.standing c id day title start finish = .ok ({ t with
      events := t.events ++ [{
        id := t.lastEvent + 1, title := e.titleOr title, start := begins.compactText
        finish := ends.compactText, ruleText := none, endDate := none, count := none, parent := some id
        created := c.now.compactText, modified := c.now.compactText }]
      lastEvent := t.lastEvent + 1 }, t.lastEvent + 1) := by
  have owner : storedInteger? (some id) = .ok (some id) := by
    rw [storedInteger?_eq_ok, Option.all_some]
    exact ⟨Tables.fitsWord_of_read read, rfl⟩
  have columns : RuleColumns.ofRule none = .ok {} := rfl
  have count : storedInteger? ({} : RuleColumns).count = .ok none := rfl
  have next : nextId t.lastEvent = .ok (t.lastEvent + 1) := nextId_eq_ok.mpr ⟨room, rfl⟩
  rw [Tables.standing, read, ok_bind, span, ok_bind]
  dsimp only
  rw [Tables.added, columns, ok_bind, count, ok_bind, owner, ok_bind, Tables.insertEvent, next, ok_bind,
    newRow, ok_bind]
  dsimp only
  rw [Option.all_some, there, Bool.or_true, if_pos rfl]

theorem chain_room {n : Nat} (fits : (n : Int) + 2 < wordLimit) :
    fitsWord ((chainTables n).lastEvent + 1) = true := by
  have last : (chainTables n).lastEvent = n + 1 := rfl
  rw [last]
  exact fitsWord_next (by omega) (by omega)

/-- Modifying an occurrence of the last event adds a level. -/
theorem chain_standing {n : Nat} (sound : (chainTables n).Sound) (fits : (n : Int) + 2 < wordLimit) :
    (chainTables n).standing newYearsEve (n + 1) chainDay none none none
      = .ok ({ chainTables n with
          events := (chainTables n).events ++ [chainLink (n + 1)], lastEvent := n + 1 + 1 },
        n + 1 + 1) := by
  obtain ⟨e, told, title, span⟩ := exists_ofRow_chainLast n
  have read : (chainTables n).read newYearsEve.standpoint (n + 1) = .ok e :=
    sound.read_eq_ok.mpr ⟨_, chainLast_mem n, chainLast_id n, told⟩
  have there : (chainTables n).hasEvent (n + 1) = true :=
    Tables.hasEvent_iff.mpr ⟨_, chainLast_mem n, chainLast_id n⟩
  have room := chain_room fits
  have begins : Moment.compactText ⟨chainDay, ⟨9, 0, 0, 0, by decide⟩, none⟩
    = "20240105T090000".toList := by decide +kernel
  have finishes : Moment.compactText ⟨chainDay, ⟨10, 0, 0, 0, by decide⟩, none⟩
    = "20240105T100000".toList := by decide +kernel
  have now : newYearsEve.now.compactText = "20231231T080000".toList := by decide +kernel
  rw [standing_of_read read there span room, begins, finishes, now, Event.titleOr, title]
  rfl

/-- The last event of a chain had no exception. -/
theorem chain_replacing {n : Nat} {t : Tables} (fits : (n : Int) + 2 < wordLimit)
    (gained : t = { chainTables n with
      events := (chainTables n).events ++ [chainLink (n + 1)], lastEvent := n + 1 + 1 }) :
    t.replacing (n + 1)
        { date := chainDay, kind := .modified, replacement := some (decimalInt (n + 1 + 1)) }
      = .ok (chainTables (n + 1), ()) := by
  have free : t.exceptionOn? (n + 1) chainDay.compactText = none := by
    apply List.find?_eq_none.mpr
    intro x member hit
    rw [gained] at member
    obtain ⟨i, there, rfl⟩ := List.mem_map.mp member
    rw [Bool.and_eq_true, beq_iff_eq, chainName] at hit
    have last : i = n + 1 := hit.1
    have := (mem_chainIds.mp there).2
    omega
  have whole : t.dropping (n + 1) chainDay (some (decimalInt (n + 1 + 1))) = ⟨t, true⟩ := by
    apply Tables.dropping_of_none
    intro child stands
    have named := (Tables.replaced?_eq_some_iff.mp stands.named).1
    rw [free] at named
    cases named
  have there : t.hasEvent (n + 1) = true := by
    rw [gained]
    exact Tables.hasEvent_iff.mpr
      ⟨_, List.mem_append_left _ (chainLast_mem n), chainLast_id n⟩
  have word : fitsWord ((n : Int) + 1) = true := fitsWord_next (Int.natCast_nonneg n) (by omega)
  have word' : fitsWord ((n : Int) + 1 + 1) = true := fitsWord_next (by omega) (by omega)
  have next : nextId t.lastException = .ok (n + 1) := by
    rw [gained]
    exact nextId_eq_ok.mpr ⟨word, rfl⟩
  have standIn : Option.all fitsWord (some ((n : Int) + 1 + 1)) = true := by
    rw [Option.all_some]
    exact word'
  rw [Tables.replacing_eq_ok, Tables.dropped, whole, Tables.put, Tables.standIn_eq standIn rfl, ok_bind,
    storedInteger?_eq_ok.mpr ⟨standIn, rfl⟩, ok_bind, Tables.putException, next, ok_bind, there, free]
  refine ⟨rfl, ?_⟩
  rw [gained, chainTables_succ]
  rfl

theorem tables_chain (n : Nat) (fits : (n : Int) + 1 < wordLimit) :
    (chain n).tables = chainTables n := by
  induction n with
  | zero => decide +kernel
  | succ n ih =>
      have same := ih (by omega)
      have run := chain_run n
      have made := chain_standing (same ▸ run.sound.2) (by push_cast at fits; omega)
      rw [← same] at made
      obtain ⟨notes, left⟩ := call_of_standing (chain_unlooped n) .modified made
      rw [chain_replacing (by push_cast at fits; omega) (same ▸ rfl)] at left
      rw [chain, after, modifyOccurrence, left]

/-- So many levels below an event of the chain there is another. -/
theorem below_chain {n k m : Nat} (le : k + m ≤ n) :
    Tables.Below (chainTables n).events m (k + 1) ((k + m : Nat) + 1) := by
  induction m with
  | zero => exact .here _
  | succ m ih =>
      have member : chainLink ((k + m : Nat) + 1) ∈ (chainTables n).events :=
        List.mem_cons_of_mem _ (List.mem_map_of_mem (mem_chainIds.mpr ⟨by omega, by omega⟩))
      have apart : (((k + m : Nat) : Int) + 1) ≠ (chainLink ((k + m : Nat) + 1)).id := by
        dsimp only [chainLink]
        omega
      have last : Tables.Below (chainTables n).events 1 ((k + m : Nat) + 1)
          (((k + m + 1 : Nat) : Int) + 1) := .child member rfl apart (.here _)
      have inner := (ih (by omega)).trans last
      rw [Nat.add_comm 1 m] at inner
      exact inner

/-- In a long chain the event that stands in for an occurrence of the series is deep. -/
theorem standsIn_chain {n : Nat} (fits : (n : Int) + 1 < wordLimit) (long : deletionLevels < n) :
    (chain n).tables.StandsIn 1 chainDay none (chainLink 1)
      ∧ (chain n).tables.IsDeep (chainLink 1).id := by
  have sound := (chain_run n).sound.2
  rw [tables_chain n fits] at sound ⊢
  have first : (1 : Int) ∈ chainIds n := mem_chainIds.mpr ⟨by omega, by omega⟩
  refine ⟨⟨List.mem_cons_of_mem _ (List.mem_map_of_mem first), ?_, rfl⟩, _, below_chain (k := 1) ?_⟩
  · exact sound.replaced?_eq_some.mpr ⟨⟨_, List.mem_map_of_mem first, rfl, rfl, rfl⟩, nofun⟩
  · omega

/-- The series of a chain can be read, and an event can be added to stand in for an occurrence. -/
theorem exists_standing_chain {n : Nat} (fits : (n : Int) + 2 < wordLimit) :
    (∃ e, (chain n).tables.read newYearsEve.standpoint 1 = .ok e)
      ∧ ∃ added, (chain n).tables.standing newYearsEve 1 chainDay none none none = .ok added := by
  obtain ⟨e, told, -, span⟩ := exists_ofRow_chainLast 0
  have sound := (chain_run n).sound.2
  rw [tables_chain n (by omega)] at sound ⊢
  have read : (chainTables n).read newYearsEve.standpoint 1 = .ok e :=
    sound.read_eq_ok.mpr ⟨chainTop, List.mem_cons_self, rfl, told⟩
  have there : (chainTables n).hasEvent 1 = true :=
    Tables.hasEvent_iff.mpr ⟨chainTop, List.mem_cons_self, rfl⟩
  have room := chain_room fits
  exact ⟨⟨e, read⟩, _, standing_of_read read there span room⟩

end Recurrence.Store
