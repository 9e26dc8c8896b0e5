import Recurrence.Proofs.CommandLine.Opening
import Recurrence.Proofs.Store.Split
import Recurrence.Proofs.Store.Storage
import Recurrence.Proofs.Terminal.Markup

/-! Adding a series from the command line. The series is stored before it is told, so a call may end with
an error after it has stored one. That is so where the journal is lost or the title cannot be shown as
marked text, and nowhere else. -/

namespace Recurrence

/-- On a day the store takes in a series with this rule. -/
structure Tables.TakesIn (tables : Tables) (today : Date) (rule : Rule) : Prop where
  checked : rule.check today = .ok ()
  written : ∃ t, rule.write = .ok t
  counted : rule.count.all fitsWord = true
  numbered : fitsWord (tables.lastEvent + 1) = true

namespace Store

variable {tables : Tables} {c : Conditions} {title : Text} {start finish : Moment} {rule : Rule}

/-- A series that is stored is noted. -/
theorem notes_of_createSeries {s after : Store} {id : Int} {title : Option Text} {today : Option Date}
    (made : s.call (createSeries c title start finish rule today) = (.ok id, after)) :
    after.notes ≠ [] := by
  obtain ⟨_, checked, -, made⟩ := call_bind_eq_ok made
  obtain ⟨_, added, -, made⟩ := call_bind_eq_ok made
  obtain ⟨_, written, -, made⟩ := call_bind_eq_ok made
  obtain ⟨_, noted, told, made⟩ := call_bind_eq_ok made
  cases told
  cases made
  exact List.cons_ne_nil _ _

theorem createSeries_of_takesIn (h : tables.TakesIn c.today rule) (title : Text)
    (start finish : Moment) :
    ∃ id store, Store.call { committed := tables, tables }
        (createSeries c (some title) start finish rule none) = (.ok id, store)
      ∧ store.committed.events ≠ tables.events ∧ store.notes ≠ [] := by
  obtain ⟨notes, outcome⟩ := call_createSeries (s := { committed := tables, tables }) (c := c)
    (some title) start finish rule none
  have fits : ¬ Fails (tables.added c (some title) start finish (some rule) none) := by
    rw [Tables.fails_added, h.counted, h.numbered]
    obtain ⟨t, written⟩ := h.written
    rw [written]
    rintro (failed | absent | absent)
    · exact absurd failed (not_fails_ok t)
    · cases absent
    · cases absent
  obtain ⟨⟨after, id⟩, added⟩ := exists_of_not_fails fits
  have checked : rule.check ((none : Option Date).getD c.today) = .ok () := h.checked
  rw [checked, ok_bind, added] at outcome
  refine ⟨id, _, outcome, ?_, notes_of_createSeries outcome⟩
  obtain ⟨columns, row, -, -, -, -, -, rfl⟩ := Tables.added_eq_ok added
  exact fun same => absurd (List.append_right_eq_self.mp same) (List.cons_ne_nil row [])

theorem createSeries_of_not_takesIn (h : ¬ tables.TakesIn c.today rule) (title : Text)
    (start finish : Moment) :
    ∃ fault store, Store.call { committed := tables, tables }
        (createSeries c (some title) start finish rule none) = (.error fault, store)
      ∧ store.committed = tables := by
  obtain ⟨notes, outcome⟩ := call_createSeries (s := { committed := tables, tables }) (c := c)
    (some title) start finish rule none
  have failed : Fails (do
      rule.check ((none : Option Date).getD c.today)
      tables.added c (some title) start finish (some rule) none) := by
    refine Classical.byContradiction fun all => h ?_
    simp only [fails_bind, Tables.fails_added, not_or, not_exists, not_and] at all
    obtain ⟨passes, fits⟩ := all
    obtain ⟨_, checked⟩ := exists_of_not_fails passes
    obtain ⟨written, counted, numbered⟩ := fits () checked
    exact ⟨checked, exists_of_not_fails written, Bool.eq_true_of_not_eq_false counted,
      Bool.eq_true_of_not_eq_false numbered⟩
  obtain ⟨fault, failed⟩ := failed
  rw [failed] at outcome
  exact ⟨fault, _, outcome, rfl⟩

end Store

namespace CommandLine

open Session

/-- On a day the store takes in the series that is given to be added. -/
def AnchorSpan.IsTakenIn (anchor : AnchorSpan) (tables : Tables) (here : DateText.Standpoint)
    (text : Text) : Prop :=
  (∃ ends, anchor.ends = .ok ends)
    ∧ ∃ rule form, Phrase.read here text = .ok (some (rule, form)) ∧ tables.TakesIn here.today rule

variable {s : Session} {c : Context} {tables : Tables}

/-- The message that tells a new series can be shown where its title can. -/
theorem fails_shown_added {rule : Rule} {written : Text} (id : Int) (title : Text)
    (coded : rule.IsCoded) (wrote : rule.write = .ok written) :
    Fails (Terminal.shown ("[green]✔ Added series #".toList ++ decimalInt id ++ ":[/green] ".toList
        ++ title ++ ' ' :: written))
      ↔ Fails (Terminal.shown title) := by
  have apart : "[green]✔ Added series #".toList ++ decimalInt id ++ ":[/green] ".toList ++ title
        ++ ' ' :: written
      = "[green]".toList ++ ("✔ Added series #".toList ++ decimalInt id ++ [':']) ++ "[/green]".toList
        ++ [' '] ++ title ++ ' ' :: written := by
    have opening : "[green]✔ Added series #".toList = "[green]".toList ++ "✔ Added series #".toList := by
      decide +kernel
    have closing : ":[/green] ".toList = [':'] ++ "[/green]".toList ++ [' '] := by decide +kernel
    rw [opening, closing]
    simp only [List.append_assoc]
  rw [apart]
  apply Terminal.fails_shown_behindGreen
  · intro c member
    have bounded : c ∈ decimalInt id → c ≠ '[' ∧ c ≠ '\\' := by
      intro digit
      have bounds := Integer.decimalInt_bounds digit
      constructor <;> rintro rfl <;> exact absurd bounds (by decide)
    have words : ∀ c ∈ "✔ Added series #".toList ++ [':'] ++ [' '], c ≠ '[' ∧ c ≠ '\\' := by
      decide +kernel
    simp only [List.mem_append] at member words
    rcases member with ((front | digit) | colon) | blank
    · exact words c (.inl (.inl front))
    · exact bounded digit
    · exact words c (.inl (.inr colon))
    · exact words c (.inr blank)
  · intro c member
    rcases List.mem_cons.mp member with rfl | inside
    · decide
    · have bounds := Rule.bounds_of_mem_write coded wrote c inside
      constructor <;> rintro rfl <;> exact absurd bounds (by decide)

/-- What is printed after the store has answered changes nothing on the disk. -/
theorem alike_told (title : Text) (rule : Rule) (e : Except Fault Int) :
    Leaves Alike (do
      let id ← orFail e
      let written ← orStop rule.write
      printMarked ("[green]✔ Added series #".toList ++ decimalInt id ++ ":[/green] ".toList ++ title
        ++ ' ' :: written)) :=
  alike_bind (alike_orFail e) fun _ => alike_bind (alike_orStop _) fun _ => alike_printMarked _

theorem performAdd_of_not_isTakenIn {text : Text} {anchor : AnchorSpan} (housed : s.IsHoused)
    (there : tablesIn s.disk c.home = some tables) (title : Text)
    (h : ¬ anchor.IsTakenIn tables s.here text) :
    tablesIn (s.run (performAdd c title text anchor)).2.disk c.home = some tables := by
  unfold performAdd
  rcases ruleOrFail_outcome s text with ⟨rule, form, read, ran⟩ | ⟨-, stop, ran⟩
  · rw [run_bind_ok _ ran, run_bind, run_orStop]
    cases ends : anchor.ends with
    | error fault => exact there
    | ok span =>
        obtain ⟨start, finish⟩ := span
        have refused : ¬ tables.TakesIn (c.conditions s.now s.base).today rule := fun taken =>
          h ⟨⟨_, ends⟩, rule, form, read, taken⟩
        obtain ⟨fault, store, done, unchanged⟩ :=
          Store.createSeries_of_not_takesIn refused title start finish
        obtain ⟨answer, after, ran, kept, -, -, outcome⟩ := withStore_outcome housed there
          (fun conditions => Store.createSeries conditions (some title) start finish rule none) done
        rw [unchanged] at kept
        dsimp only [Except.mapError]
        rcases outcome with ⟨-, -, stop, rfl⟩ | ⟨-, rfl⟩
        · rw [run_bind_error _ ran]
          exact kept
        · rw [run_bind_ok _ ran, (alike_told title rule _ after).disk]
          exact kept
  · have alike := alike_ruleOrFail text s
    rw [run_bind_error _ (Prod.ext ran rfl), alike.disk]
    exact there

theorem performAdd_of_isTakenIn {text : Text} {anchor : AnchorSpan} (housed : s.IsHoused)
    (there : tablesIn s.disk c.home = some tables) (title : Text)
    (h : anchor.IsTakenIn tables s.here text) :
    (tablesIn (s.run (performAdd c title text anchor)).2.disk c.home).map Tables.events
        ≠ some tables.events
      ∧ ((c.LosesJournal s.surroundings ∨ Fails (Terminal.shown title))
          ∧ (∃ fault, (s.run (performAdd c title text anchor)).1 = .error (.fault fault))
        ∨ (¬ (c.LosesJournal s.surroundings ∨ Fails (Terminal.shown title))
          ∧ (s.run (performAdd c title text anchor)).1 = .ok ())) := by
  obtain ⟨⟨⟨start, finish⟩, ends⟩, rule, form, read, taken⟩ := h
  obtain ⟨written, wrote⟩ := taken.written
  have coded : rule.IsCoded := (Rule.passes_of_check taken.checked).byDay
  obtain ⟨id, store, done, more, noted⟩ :=
    Store.createSeries_of_takesIn (c := c.conditions s.now s.base) taken title start finish
  obtain ⟨answer, after, ran, kept, -, -, outcome⟩ := withStore_outcome housed there
    (fun conditions => Store.createSeries conditions (some title) start finish rule none) done
  have changed : (tablesIn after.disk c.home).map Tables.events ≠ some tables.events := by
    rw [kept]
    exact fun same => more (Option.some.inj same)
  unfold performAdd
  rw [run_bind_ok _ (run_ruleOrFail read), ends, run_bind_ok _ (s.run_orStop (.ok (start, finish)))]
  dsimp only
  rcases outcome with ⟨-, lost, fault, rfl⟩ | ⟨free, rfl⟩
  · rw [run_bind_error _ ran]
    exact ⟨changed, .inl ⟨.inl lost, fault, rfl⟩⟩
  · rw [run_bind_ok _ ran]
    refine ⟨(alike_told title rule (.ok id) after).disk ▸ changed, ?_⟩
    have shown := fails_shown_added id title coded wrote
    rw [show orFail (.ok id) = (pure id : Activity Int) from rfl, pure_bind, wrote,
      run_bind_ok _ (after.run_orStop (.ok written))]
    have journaled := free.resolve_left noted
    rcases printMarked_outcome after ("[green]✔ Added series #".toList ++ decimalInt id
        ++ ":[/green] ".toList ++ title ++ ' ' :: written) with ⟨failed, fault, ran⟩ | ⟨fine, ran⟩
    · exact .inl ⟨.inr (shown.mp failed), fault, ran⟩
    · exact .inr ⟨not_or.mpr ⟨journaled, mt shown.mpr fine⟩, ran⟩

theorem Machine.Runs.run_add {m : Machine} {call : Call} {title text : Text} {anchor : AnchorSpan}
    (runs : m.Runs call c s (.add title text anchor)) (here : s.here = call.here) :
    (m.session call).run (runProgram call.arguments) = s.run (performAdd c title text anchor) :=
  runs.run here

/-- An addition that is asked of a home with a store ends with an error and leaves other events behind
exactly where the series is taken in and then either the journal is lost, or the title cannot be
shown as marked text. -/
theorem Machine.add_halfway_iff {m : Machine} {call : Call} {request : Request} {home : Home}
    {tables : Tables} (asked : call.request? = some request) (named : request.name = .add)
    (found : m.home? request = .ok home) (there : tablesIn m.disk home = some tables) :
    ((m.call call).2.code ≠ 0
        ∧ (tablesIn (m.call call).1.disk home).map Tables.events ≠ some tables.events)
      ↔ ∃ c title text anchor, ((m.session call).run request.openHome).1 = .ok c
        ∧ request.command? call.here = some (.add title text anchor)
        ∧ anchor.IsTakenIn tables call.here text
        ∧ (c.LosesJournal (request.surroundings m.surroundings) ∨ Fails (Terminal.shown title)) := by
  have ran : (m.session call).run (runProgram call.arguments)
      = (m.session call).run (request.openHome >>= fun c => runCommand c .add request.arguments) := by
    rw [run_runProgram asked, named]
  rcases opened : (m.session call).run request.openHome with ⟨answer, s⟩
  obtain ⟨kept, now, base, inUse⟩ := m.openHome_outcome found there opened
  have here : s.here = call.here := by rw [Session.here, Call.here, now, base]
  -- Where the call leaves the same tables there is nothing to tell.
  have unchanged (same : tablesIn (m.call call).1.disk home = some tables) :
      ¬ ((m.call call).2.code ≠ 0
        ∧ (tablesIn (m.call call).1.disk home).map Tables.events ≠ some tables.events) := by
    rintro ⟨-, changed⟩
    rw [same] at changed
    exact changed rfl
  cases answer with
  | error stop =>
      rw [run_bind_error _ opened] at ran
      refine iff_of_false (unchanged ?_) fun ⟨c, _, _, _, absent, _⟩ => nomatch absent
      rw [m.disk_call, ran]
      exact kept
  | ok c =>
      obtain ⟨rfl, surroundings, housed⟩ := inUse c rfl
      rw [run_bind_ok _ opened] at ran
      cases made : request.command? call.here with
      | none =>
          refine iff_of_false (unchanged ?_) fun ⟨_, _, _, _, _, absent, _⟩ => nomatch absent
          have unmade : CommandName.add.command? s.here request.arguments = none := by
            rw [here, ← named]
            exact made
          rw [m.disk_call, ran, (alike_runCommand unmade).disk]
          exact kept
      | some command =>
          have asks : CommandName.add.command? call.here request.arguments = some command :=
            named ▸ made
          obtain ⟨title, text, anchor, rfl⟩ := command?_add asks
          have added := Machine.Runs.run_add ⟨request, asked, opened, made⟩ here
          rw [← here]
          by_cases taken : anchor.IsTakenIn tables s.here text
          · obtain ⟨changed, outcome⟩ := performAdd_of_isTakenIn housed kept title taken
            rw [surroundings] at outcome
            have left : (tablesIn (m.call call).1.disk c.home).map Tables.events ≠ some tables.events := by
              rw [m.disk_call, added]
              exact changed
            rcases outcome with ⟨cause, fault, failed⟩ | ⟨none, succeeded⟩
            · refine iff_of_true ⟨?_, left⟩ ⟨c, title, text, anchor, rfl, rfl, taken, cause⟩
              rw [Machine.code_of_fault ((congrArg Prod.fst added).trans failed)]
              exact Nat.one_ne_zero
            · refine iff_of_false (fun wrong => wrong.1 ?_) ?_
              · exact Machine.code_of_ok ((congrArg Prod.fst added).trans succeeded)
              · rintro ⟨_, _, _, _, ⟨⟩, ⟨⟩, -, cause⟩
                exact none cause
          · refine iff_of_false (unchanged ?_) ?_
            · rw [m.disk_call, added]
              exact performAdd_of_not_isTakenIn housed kept title taken
            · rintro ⟨_, _, _, _, -, ⟨⟩, given, -⟩
              exact taken given

/-- A home that holds no events yet has been chosen. -/
def Machine.blank : Machine where
  disk := { nodes := [(["home".toList], .folder), (["home".toList, settingsName], .text []),
    (["home".toList, eventsName], .other {})] }
  surroundings := { chosen := some "home".toList }

def Machine.blankHome : Home := .folder { names := ["home".toList] }

/-- A title that closes a tag where none is open: the series is stored, and then the call fails to tell
it. -/
theorem Machine.add_halfway_nothingOpen :
    let call : Call := {
      arguments := ["add".toList, "[/]".toList, "FREQ=DAILY".toList, "--start".toList,
        "2024-01-01T09:00".toList]
      now := Store.newYearsEve.now
      base := Store.newYearsEve.base }
    (blank.call call).2.code ≠ 0
      ∧ (tablesIn (blank.call call).1.disk blankHome).map Tables.events ≠ some [] := by
  intro call
  let request : Request := ⟨{ words := call.arguments }, .add, call.arguments.drop 1⟩
  let anchor : AnchorSpan := ⟨⟨⟨2024, 1, 1, by decide⟩, ⟨9, 0, 0, 0, by decide⟩, none⟩, none, 60⟩
  have asked : call.request? = some request := by rfl
  have opened : ((blank.session call).run request.openHome).1.isOk = true := by decide +kernel
  have made : request.command? call.here = some (.add "[/]".toList "FREQ=DAILY".toList anchor) := by
    rfl
  have taken : anchor.IsTakenIn {} call.here "FREQ=DAILY".toList := by
    have lasts : anchor.ends = .ok (anchor.start, ⟨anchor.start.date, ⟨10, 0, 0, 0, by decide⟩, none⟩) :=
      eq_ok_of_toOption (by decide +kernel)
    refine ⟨⟨_, lasts⟩, Store.everyDay, .ruleText, by rfl, ?_⟩
    exact { checked := by rfl, written := ⟨_, rfl⟩, counted := rfl, numbered := by decide }
  have hidden : Fails (Terminal.shown "[/]".toList) := fails_of_toOption (by decide +kernel)
  cases answer : ((blank.session call).run request.openHome).1 with
  | error stop =>
      rw [answer] at opened
      cases opened
  | ok c =>
      exact (@Machine.add_halfway_iff blank call request blankHome {} asked rfl rfl rfl).mpr
        ⟨c, _, _, anchor, answer, made, taken, .inr hidden⟩

end CommandLine

end Recurrence
