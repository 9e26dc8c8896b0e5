import Recurrence.Proofs.CommandLine.Adding
import Recurrence.Proofs.CommandLine.Storing
import Recurrence.Proofs.Store.Forward

/-! Events that end before they start, in the stores that calls of the program lead to. An addition and a
change of one day do not ask whether the end that is given lies behind the start. As long as none is given
that lies before it, all rows run forward, and so does all that is shown of them. -/

namespace Recurrence

theorem Duration.micros_of_ofMicros {micros : Int} {d : Duration} (h : ofMicros micros = .ok d) :
    d.micros = micros := by
  unfold ofMicros at h
  dsimp only at h
  split at h
  · cases h
  · split at h
    · cases h
    · cases h
      rfl

namespace CommandLine

open Session
open Tables (IsForward ShowsForward Unlooped)

namespace Command

/-- The days on which an event begins or ends that a command stores, as far as they are given. -/
def days : Command → List Date
  | add _ _ anchor => anchor.start.date :: (anchor.finish.map Moment.date).toList
  | modify _ day _ start finish =>
    (start.map Moment.date).getD day :: (finish.map Moment.date).toList
  | move _ _ start finish => start.date :: (finish.map Moment.date).toList
  | split _ day _ _ => [day]
  | _ => []

/-- An end is given that lies before the start, to the second. -/
def EndsEarly (t : Tables) (here : DateText.Standpoint) : Command → Prop
  | add _ _ anchor =>
    ∃ finish, anchor.finish = some finish
      ∧ finish.told.clockMicros < anchor.start.told.clockMicros
  | modify id day _ start finish =>
    ∃ e, t.read here id = .ok e ∧ ∃ m, finish = some m
      ∧ m.told.clockMicros < (start.getD { e.start with date := day }).told.clockMicros
  | move id _ start finish =>
    ∃ e, t.read here id = .ok e ∧ ∃ m, finish = some m
      ∧ m.told.clockMicros < start.told.clockMicros
  | _ => False

variable {command : Command} {t t' : Tables} {c : Conditions} {call : Store.Call}
  {begins ends : Moment}

theorem storeCall?_add {title text : Text} {anchor : AnchorSpan}
    (asks : (add title text anchor).storeCall? c.standpoint = some call) :
    ∃ start finish rule, anchor.ends = .ok (start, finish)
      ∧ call = .create (some title) start finish rule none := by
  obtain ⟨rule, -, asks⟩ := Option.bind_eq_some_iff.mp asks
  obtain ⟨⟨start, finish⟩, ends, rfl⟩ := Option.map_eq_some_iff.mp asks
  exact ⟨start, finish, rule, eq_ok_of_toOption ends, rfl⟩

theorem storeCall?_split {id : Int} {day : Date} {text title : Option Text}
    (asks : (split id day text title).storeCall? c.standpoint = some call) :
    ∃ rule, call = .split id day rule title none := by
  match text with
  | none =>
      cases asks
      exact ⟨_, rfl⟩
  | some [] =>
      cases asks
      exact ⟨_, rfl⟩
  | some (letter :: rest) =>
      obtain ⟨rule, -, rfl⟩ := Option.map_eq_some_iff.mp asks
      exact ⟨_, rfl⟩

/-- No command adds an event with a parent that is given. -/
theorem addsNoChild_of_storeCall? (asks : command.storeCall? c.standpoint = some call) :
    call.AddsNoChild := by
  cases command with
  | add =>
      obtain ⟨_, _, _, -, rfl⟩ := storeCall?_add asks
      trivial
  | split =>
      obtain ⟨_, rfl⟩ := storeCall?_split asks
      trivial
  | _ =>
      cases asks <;> trivial

/-- An anchor ends before it starts only where it is told to. -/
theorem order_of_anchor {anchor : AnchorSpan} (measured : 0 ≤ anchor.minutes)
    (h : anchor.ends = .ok (begins, ends)) (late : 1000 ≤ anchor.start.date.year)
    (late' : ∀ m, anchor.finish = some m → 1000 ≤ m.date.year) :
    (1000 ≤ begins.date.year ∧ 1000 ≤ ends.date.year)
      ∧ (ends.told.clockMicros < begins.told.clockMicros
        ↔ ∃ m, anchor.finish = some m
          ∧ m.told.clockMicros < anchor.start.told.clockMicros) := by
  unfold AnchorSpan.ends at h
  split at h
  · rename_i finish given
    cases h
    refine ⟨⟨late, late' _ given⟩, fun early => ⟨_, given, early⟩, ?_⟩
    rintro ⟨m, given', early⟩
    cases given.symm.trans given'
    exact early
  · rename_i absent
    obtain ⟨duration, length, h⟩ := bind_eq_ok.mp h
    obtain ⟨_, sum, h⟩ := bind_eq_ok.mp h
    cases h
    have lasting : 0 ≤ duration.micros := by
      rw [Duration.micros_of_ofMicros length]
      simp only [microsPerSecond]
      omega
    obtain ⟨years, order⟩ := Moment.order_of_lasts lasting (Moment.add_eq_ok sum).2 late
    refine ⟨years, iff_of_false order ?_⟩
    rintro ⟨_, given, -⟩
    cases absent.symm.trans given

/-- What stands in for a day of an event that runs forward ends before it starts only where it is told to. -/
theorem order_of_standIn (forward : t.IsForward) {id : Int} {day : Date} {start finish : Option Moment}
    (span : ((t.read c.standpoint id).toOption.bind fun e => (e.standInSpan day start finish).toOption)
      = some (begins, ends))
    (late : ∀ d ∈ (start.map Moment.date).getD day :: (finish.map Moment.date).toList, 1000 ≤ d.year) :
    (1000 ≤ begins.date.year ∧ 1000 ≤ ends.date.year)
      ∧ (ends.told.clockMicros < begins.told.clockMicros
        ↔ ∃ e, t.read c.standpoint id = .ok e ∧ ∃ m, finish = some m
          ∧ m.told.clockMicros < (start.getD { e.start with date := day }).told.clockMicros) := by
  obtain ⟨e, found, span⟩ := Option.bind_eq_some_iff.mp span
  have read := eq_ok_of_toOption found
  obtain ⟨years, order⟩ := Event.order_of_standInSpan (Tables.offset_of_read read)
    (forward.of_read read) (eq_ok_of_toOption span) (late _ List.mem_cons_self)
    (by
      rintro m rfl
      exact late _ (List.mem_cons_of_mem _ List.mem_cons_self))
  refine ⟨years, order.trans ⟨fun early => ⟨e, read, early⟩, ?_⟩⟩
  rintro ⟨e', read', early⟩
  cases read.symm.trans read'
  exact early

/-- What a command writes down on tables that run forward ends before it starts exactly where an end is
given that lies before the start. -/
theorem order_of_span (forward : t.IsForward) (asks : command.storeCall? c.standpoint = some call)
    (measured : ∀ title text anchor, command = .add title text anchor → 0 ≤ anchor.minutes)
    (late : ∀ d ∈ command.days, 1000 ≤ d.year)
    (span : call.span? { committed := t, tables := t } c = some (begins, ends)) :
    (1000 ≤ begins.date.year ∧ 1000 ≤ ends.date.year)
      ∧ (ends.told.clockMicros < begins.told.clockMicros ↔ command.EndsEarly t c.standpoint) := by
  cases command with
  | add title text anchor =>
      obtain ⟨start, finish, rule, lasts, rfl⟩ := storeCall?_add asks
      cases span
      apply order_of_anchor (measured _ _ _ rfl) lasts (late _ List.mem_cons_self)
      intro m given
      apply late _ (List.mem_cons_of_mem _ _)
      rw [given]
      exact List.mem_cons_self
  | modify id day title start finish =>
      cases asks
      exact order_of_standIn forward span late
  | move id day start finish =>
      cases asks
      exact @order_of_standIn t c _ _ forward id day (some start) finish span late
  | split id day text title =>
      obtain ⟨rule, rfl⟩ := storeCall?_split asks
      obtain ⟨e, found, span⟩ := Option.bind_eq_some_iff.mp span
      have read := eq_ok_of_toOption found
      obtain ⟨rfl, lasts⟩ := Event.lasts_of_slot (Tables.offset_of_read read) (eq_ok_of_toOption span)
      have year : 1000 ≤ day.year := late day List.mem_cons_self
      obtain ⟨years, order⟩ := Moment.order_of_lasts (Int.sub_nonneg_of_le (forward.of_read read)) lasts
        (late day List.mem_cons_self)
      exact ⟨years, iff_of_false order nofun⟩
  | _ =>
      cases asks <;> cases span

theorem Makes.unlooped (makes : command.Makes c t t') (h : t.Unlooped) : t'.Unlooped := by
  rcases makes with rfl | ⟨call, asks, rfl⟩
  · exact h
  · have held : Store.Holds Unlooped { committed := t, tables := t } := ⟨h, h⟩
    exact (held.unlooped c (addsNoChild_of_storeCall? asks)).1

theorem Makes.forward (makes : command.Makes c t t') (h : t.IsForward)
    (measured : ∀ title text anchor, command = .add title text anchor → 0 ≤ anchor.minutes)
    (late : ∀ d ∈ command.days, 1000 ≤ d.year) (timely : ¬ command.EndsEarly t c.standpoint) :
    t'.IsForward := by
  rcases makes with rfl | ⟨call, asks, rfl⟩
  · exact h
  · have held : Store.Holds IsForward { committed := t, tables := t } := ⟨h, h⟩
    have order := fun begins ends => @order_of_span command t c call begins ends h asks measured late
    refine (held.forward c call (fun begins ends span => (order begins ends span).1) ?_).1
    intro begins ends span
    exact Int.not_lt.mp (mt (order begins ends span).2.mp timely)

/-- A stand-in that changes the events adds the row of its span. -/
theorem exists_row_of_standIn (unlooped : t.Unlooped) {id : Int} {day : Date} {kind : OverrideKind}
    {title : Option Text} {start finish : Option Moment}
    (changed : (Store.call { committed := t, tables := t }
      (Store.overrideOccurrence c id day kind title start finish)).2.committed.events ≠ t.events) :
    ∃ begins ends,
      ((t.read c.standpoint id).toOption.bind fun e => (e.standInSpan day start finish).toOption)
        = some (begins, ends)
      ∧ ∃ row ∈ (Store.call { committed := t, tables := t }
          (Store.overrideOccurrence c id day kind title start finish)).2.committed.events,
        row.start = begins.compactText ∧ row.finish = ends.compactText := by
  obtain ⟨e, begins, ends, read, span, there⟩ :=
    Store.exists_standIn (s := { committed := t, tables := t }) unlooped rfl changed
  refine ⟨begins, ends, ?_, there⟩
  dsimp only at read
  rw [read]
  exact congrArg Except.toOption span

/-- What a command stores with an end that lies too early is there afterwards, if anything is stored. -/
theorem EndsEarly.exists_row (early : command.EndsEarly t c.standpoint) (unlooped : t.Unlooped)
    (asks : command.storeCall? c.standpoint = some call)
    (changed : (Store.after { committed := t, tables := t } c call).committed.events ≠ t.events) :
    ∃ begins ends, call.span? { committed := t, tables := t } c = some (begins, ends)
      ∧ ∃ row ∈ (Store.after { committed := t, tables := t } c call).committed.events,
        row.start = begins.compactText ∧ row.finish = ends.compactText := by
  cases command with
  | add title text anchor =>
      obtain ⟨start, finish, rule, -, rfl⟩ := storeCall?_add asks
      obtain ⟨notes, outcome⟩ := Store.call_createSeries { committed := t, tables := t } c (some title)
        start finish rule none
      refine ⟨start, finish, rfl, ?_⟩
      rw [Store.after, outcome] at changed ⊢
      cases made : (rule.check ((none : Option Date).getD c.today) >>= fun _ =>
          t.added c (some title) start finish (some rule) none) with
      | error fault =>
          rw [made] at changed
          exact absurd rfl changed
      | ok result =>
          obtain ⟨_, -, added⟩ := bind_eq_ok.mp made
          obtain ⟨columns, row, -, -, -, -, new, rest⟩ := Tables.added_eq_ok added
          obtain ⟨-, -, begun, ended⟩ := Tables.newRow_eq_ok new
          refine ⟨row, ?_, begun, ended⟩
          change row ∈ result.1.events
          rw [rest]
          exact List.mem_append_right _ List.mem_cons_self
  | modify id day title start finish =>
      cases asks
      exact exists_row_of_standIn unlooped changed
  | move id day start finish =>
      cases asks
      exact @exists_row_of_standIn t c unlooped id day .moved none (some start) finish changed
  | _ => cases early

end Command

/-- Every moment that is given with the command of the call lies in the year 1000 or later. -/
def Call.IsLate (call : Call) : Prop :=
  ∀ request command, call.request? = some request → request.command? call.here = some command →
    ∀ d ∈ command.days, 1000 ≤ d.year

namespace Machine

variable {m : Machine} {call : Call} {calls : List Call}

/-- The call runs a command with an end that lies before the start, and changes the events in the store of
the home. -/
def StoresEarlyEnd (m : Machine) (call : Call) : Prop :=
  ∃ c s command t, m.Runs call c s command ∧ tablesIn s.disk c.home = some t
    ∧ command.EndsEarly t call.here
    ∧ (tablesIn (m.call call).1.disk c.home).map Tables.events ≠ some t.events

theorem Runs.days_late {c : Context} {s : Session} {command : Command} (runs : m.Runs call c s command)
    (late : call.IsLate) : ∀ d ∈ command.days, 1000 ≤ d.year := by
  obtain ⟨request, asked, -, made⟩ := runs
  exact late request command asked made

theorem Runs.measured {c : Context} {s : Session} {command : Command} (runs : m.Runs call c s command) :
    ∀ title text anchor, command = .add title text anchor → 0 ≤ anchor.minutes := by
  obtain ⟨request, -, -, made⟩ := runs
  rintro title text anchor rfl
  exact minutes_of_command? made

theorem isLate_of_command? {request : Request} {command : Command}
    (asked : call.request? = some request) (made : request.command? call.here = some command)
    (late : ∀ d ∈ command.days, 1000 ≤ d.year) : call.IsLate := by
  intro request' command' asked' made'
  cases asked.symm.trans asked'
  cases made.symm.trans made'
  exact late

theorem not_storesEarlyEnd {request : Request} {command : Command}
    (asked : call.request? = some request) (made : request.command? call.here = some command)
    (timely : ∀ t, ¬ command.EndsEarly t call.here) : ¬ m.StoresEarlyEnd call := by
  rintro ⟨c, s, other, t, ⟨request', asked', -, made'⟩, -, early, -⟩
  cases asked.symm.trans asked'
  cases made.symm.trans made'
  exact timely t early

theorem unlooped_call (held : m.disk.AllContent Unlooped) : (m.call call).1.disk.AllContent Unlooped :=
  allContent_call Tables.unlooped_empty held fun _ _ _ _ _ _ _ makes _ => makes.unlooped

/-- A call that stores no early end leaves rows that run forward. -/
theorem forward_call (late : call.IsLate) (held : m.disk.AllContent IsForward)
    (timely : ¬ m.StoresEarlyEnd call) : (m.call call).1.disk.AllContent IsForward := by
  apply allContent_call nofun held
  intro c s command t t' runs there makes left forward
  by_cases early : command.EndsEarly t call.here
  · have same : (tablesIn (m.call call).1.disk c.home).map Tables.events = some t.events := by
      by_contra changed
      exact timely ⟨c, s, command, t, runs, there, early, changed⟩
    rw [left] at same
    intro row member
    exact forward row (Option.some.inj same ▸ member)
  · exact makes.forward forward runs.measured (runs.days_late late) early

/-- A call that stores an early end leaves a row that does not run forward. -/
theorem not_forward_call (late : call.IsLate) (unlooped : m.disk.AllContent Unlooped)
    (held : m.disk.AllContent IsForward) (stores : m.StoresEarlyEnd call) :
    ¬ (m.call call).1.disk.AllContent IsForward := by
  obtain ⟨c, s, command, t, runs, there, early, changed⟩ := stores
  have forward : t.IsForward := (runs.founds.stores _ nofun held).at? (tablesIn_eq_some.mp there)
  have alone : t.Unlooped :=
    (runs.founds.stores _ Tables.unlooped_empty unlooped).at? (tablesIn_eq_some.mp there)
  obtain ⟨after, left, turns⟩ := runs.turns
  rw [left] at changed ⊢
  rcases turns with calm | ⟨t₀, t', there', makes, put⟩
  · rw [tablesIn_of_spares calm.spares there] at changed
    exact absurd rfl changed
  · cases there.symm.trans there'
    rw [put.there] at changed
    rcases makes with rfl | ⟨call, asks, rfl⟩
    · exact absurd rfl changed
    · obtain ⟨begins, ends, span, row, member, start, finish⟩ :=
        early.exists_row (c := c.conditions _ _) alone asks fun same => changed (congrArg some same)
      obtain ⟨years, order⟩ := Command.order_of_span forward asks runs.measured (runs.days_late late) span
      intro all
      have runsForward := all.at? (tablesIn_eq_some.mp put.there) row member
      exact absurd (order.mpr early)
        (Int.not_lt.mpr ((EventRow.isForward_iff start finish years).mp runsForward))

/-- Calls on moments of the year 1000 or later are made on a machine whose stores are empty. As long as
they go on all rows run forward, and all that is shown, exactly where no call stores an end that is given
before the start. -/
theorem forward_iff (empty : m.disk.AllContent fun t => t = {}) (late : ∀ call ∈ calls, call.IsLate) :
    (∀ before rest, calls = before ++ rest →
        (m.after before).disk.AllContent fun t => t.IsForward ∧ t.ShowsForward)
      ↔ ∀ before call rest, calls = before ++ call :: rest → ¬ (m.after before).StoresEarlyEnd call := by
  have unlooped (before : List Call) : (m.after before).disk.AllContent Unlooped := by
    induction before using List.reverseRecOn with
    | nil =>
        intro place t there
        rw [empty place t there]
        exact Tables.unlooped_empty
    | append_singleton before call ih =>
        rw [after_append]
        exact unlooped_call ih
  constructor
  · intro forward before call rest parts stores
    have held : (m.after before).disk.AllContent IsForward :=
      fun place t there => (forward before (call :: rest) parts place t there).1
    apply not_forward_call (late call (parts ▸ List.mem_append_right _ List.mem_cons_self))
      (unlooped before) held stores
    intro place t there
    refine (forward (before ++ [call]) rest ?_ place t ?_).1
    · rw [parts, List.append_assoc]
      rfl
    · rw [after_append]
      exact there
  · intro timely
    have forward (before rest : List Call) (parts : calls = before ++ rest) :
        (m.after before).disk.AllContent IsForward := by
      induction before using List.reverseRecOn generalizing rest with
      | nil =>
          intro place t there
          rw [empty place t there]
          exact nofun
      | append_singleton before call ih =>
          rw [List.append_assoc] at parts
          rw [after_append]
          exact forward_call (late call (parts ▸ List.mem_append_right _ List.mem_cons_self))
            (ih _ parts) (timely before call rest parts)
    intro before rest parts place t there
    have runsForward := forward before rest parts place t there
    exact ⟨runsForward, runsForward.shows⟩

/-- A series of an hour whose fifth day is moved, by calls that store no early end. A series that is to
end an hour before it starts is stored all the same. -/
theorem forward_anHour :
    let add (finish : Text) : Call := {
      arguments := ["add".toList, ['a'], "FREQ=DAILY".toList, "--start".toList,
        "2024-01-01T09:00".toList, "--end".toList, finish]
      now := Store.newYearsEve.now
      base := Store.newYearsEve.base }
    let move : Call := {
      arguments := ["move".toList, ['1'], "2024-01-05".toList, "--start".toList,
        "2024-01-06T12:00".toList, "--end".toList, "2024-01-06T13:00".toList]
      now := Store.newYearsEve.now
      base := Store.newYearsEve.base }
    (∀ before rest, [add "2024-01-01T10:00".toList, move] = before ++ rest →
        (blank.after before).disk.AllContent fun t => t.IsForward ∧ t.ShowsForward)
      ∧ ¬ ∀ before rest, [add "2024-01-01T08:00".toList] = before ++ rest →
        (blank.after before).disk.AllContent fun t => t.IsForward ∧ t.ShowsForward := by
  intro add move
  let first (hour : Nat) (isTime : IsTime hour 0 0 0) : Moment :=
    ⟨⟨2024, 1, 1, by decide⟩, ⟨hour, 0, 0, 0, isTime⟩, none⟩
  let sixth (hour : Nat) (isTime : IsTime hour 0 0 0) : Moment :=
    ⟨⟨2024, 1, 6, by decide⟩, ⟨hour, 0, 0, 0, isTime⟩, none⟩
  let adding (finish : Moment) : Command :=
    .add ['a'] "FREQ=DAILY".toList ⟨first 9 (by decide), some finish, 60⟩
  let moving : Command :=
    .move 1 ⟨2024, 1, 5, by decide⟩ (sixth 12 (by decide)) (some (sixth 13 (by decide)))
  let request (name : CommandName) (call : Call) : Request :=
    ⟨{ words := call.arguments }, name, call.arguments.drop 1⟩
  have empty : blank.disk.AllContent fun t => t = {} := by
    apply Disk.allContent_of_nodes
    intro n member t content
    simp only [blank, List.mem_cons, List.not_mem_nil, or_false] at member
    rcases member with rfl | rfl | rfl <;> cases content
    rfl
  have asked (finish : Text) : (add finish).request? = some (request .add (add finish)) := rfl
  have ten : (request .add (add "2024-01-01T10:00".toList)).command? Store.newYearsEve.standpoint
      = some (adding (first 10 (by decide))) := by rfl
  have eight : (request .add (add "2024-01-01T08:00".toList)).command? Store.newYearsEve.standpoint
      = some (adding (first 8 (by decide))) := by rfl
  have moved : (request .move move).command? Store.newYearsEve.standpoint = some moving := by rfl
  constructor
  · refine (forward_iff empty ?_).mpr ?_
    · intro call member
      simp only [List.mem_cons, List.not_mem_nil, or_false] at member
      rcases member with rfl | rfl
      · exact isLate_of_command? (asked _) ten (by decide)
      · exact isLate_of_command? rfl moved (by decide)
    · intro before call rest parts
      have member : call ∈ [add "2024-01-01T10:00".toList, move] :=
        parts ▸ List.mem_append_right _ List.mem_cons_self
      simp only [List.mem_cons, List.not_mem_nil, or_false] at member
      rcases member with rfl | rfl
      · apply not_storesEarlyEnd (asked _) ten
        rintro t ⟨_, ⟨⟩, early⟩
        exact absurd early (by decide)
      · apply not_storesEarlyEnd rfl moved
        rintro t ⟨_, -, _, ⟨⟩, early⟩
        exact absurd early (by decide)
  · let early : Call := add "2024-01-01T08:00".toList
    refine mt (forward_iff empty ?_).mp fun timely => timely [] early [] rfl (?_ : blank.StoresEarlyEnd early)
    · intro call member
      rw [List.mem_singleton.mp member]
      exact isLate_of_command? (asked _) eight (by decide)
    · have opened : ((blank.session early).run (request .add early).openHome).1.isOk = true := by
        decide +kernel
      rcases run : (blank.session early).run (request .add early).openHome with ⟨stop | c, s⟩
      · rw [run] at opened
        cases opened
      · obtain ⟨kept, now, base, inUse⟩ := @openHome_outcome blank _ _ blankHome {} _ _ rfl rfl run
        obtain ⟨here, -, housed⟩ := inUse c rfl
        rw [← here] at kept
        let anchor : AnchorSpan := ⟨first 9 (by decide), some (first 8 (by decide)), 60⟩
        have runs : blank.Runs early c s (.add ['a'] "FREQ=DAILY".toList anchor) :=
          ⟨_, asked _, run, eight⟩
        have same : s.here = early.here := by rw [Session.here, Call.here, now, base]
        have taken : anchor.IsTakenIn {} s.here "FREQ=DAILY".toList := by
          rw [same]
          refine ⟨⟨_, rfl⟩, Store.everyDay, .ruleText, by rfl, ?_⟩
          exact { checked := by rfl, written := ⟨_, rfl⟩, counted := rfl, numbered := by decide }
        have changed := (performAdd_of_isTakenIn housed kept ['a'] taken).1
        rw [← runs.run_add same, ← disk_call] at changed
        exact ⟨c, s, _, {}, runs, kept, ⟨_, rfl, by decide⟩, changed⟩

end Machine

end CommandLine

end Recurrence
