import Recurrence.Proofs.CommandLine.Request
import Recurrence.Proofs.Store.Run

/-! The home of a call, and the store in it. A home that has a store keeps it while it is opened; an
action on the store is put back with what it has committed before anything is noted in the journal. -/

namespace Recurrence.CommandLine

open Session

/-- The tables of the store in a home, if there is one. -/
def tablesIn (disk : Disk Tables) (home : Home) : Option Tables :=
  match disk.at? (eventsPath home) with
  | some (.other tables) => some tables
  | _ => none

theorem tablesIn_eq_some {disk : Disk Tables} {home : Home} {tables : Tables} :
    tablesIn disk home = some tables ↔ disk.at? (eventsPath home) = some (.other tables) := by
  unfold tablesIn
  split
  · rename_i found
    rw [found]
    simp only [Option.some.injEq, Node.other.injEq]
  · rename_i other
    exact ⟨nofun, fun found => absurd found (other tables)⟩

theorem exists?_of_tablesIn {disk : Disk Tables} {home : Home} {tables : Tables}
    (there : tablesIn disk home = some tables) : disk.exists? (eventsPath home) = true :=
  Option.isSome_of_mem (tablesIn_eq_some.mp there)

theorem tablesIn_of_spares {disk disk' : Disk Tables} {home : Home} {tables : Tables}
    (spares : disk.Spares disk') (there : tablesIn disk home = some tables) :
    tablesIn disk' home = some tables :=
  tablesIn_eq_some.mpr (spares.at? (tablesIn_eq_some.mp there))

/-- No NUL stands in the path of a home that has a store. -/
theorem not_hasNul_of_tablesIn {disk : Disk Tables} {home : Home} {tables : Tables}
    (there : tablesIn disk home = some tables) : ¬ home.path.HasNul := by
  intro nul
  obtain ⟨place, led, -⟩ := Disk.at?_eq_some.mp (tablesIn_eq_some.mp there)
  have inside : (eventsPath home).HasNul := (Path.hasNul_join rfl).mpr (.inl nul)
  cases led.symm.trans (Disk.placeOf_eq_hasNul.mpr inside)

/-- Is a file of this name where one stands? -/
abbrev Session.isHere (s : Session) (name : Text) : Bool := s.disk.exists? { names := [name] }

/-- The home that is found in a session. -/
def Session.home? (s : Session) : Except Fault Home :=
  Home.find s.surroundings (s.isHere settingsName) (s.isHere eventsName)

/-! Opening a home. -/

section Opening

variable {home : Home} {tables : Tables}

theorem calm_makeFolders (p : Path) : Leaves Calm (makeFolders p) := by
  refine leaves_get fun s => ?_
  have made := Disk.spares_makeFolders s.disk p
  rcases outcome : s.disk.makeFolders p with ⟨disk, settled⟩
  rw [outcome] at made
  have left : Calm s { s with disk } := ⟨made, rfl, rfl, rfl⟩
  exact isFrame_calm.trans left (leaves_orStop isFrame_calm settled { s with disk })

/-- Text may be put where no store stands. -/
theorem calm_putFile {s : Session} {p : Path} (free : ∀ tables, s.disk.at? p ≠ some (.other tables))
    (t : Text) : Calm s (s.run (putFile p (.text t))).2 := by
  unfold putFile
  rw [run_bind_ok _ s.run_get]
  cases put : s.disk.putFile p (.text t) with
  | error fault => exact isFrame_calm.alike ⟨rfl, rfl, rfl, rfl⟩
  | ok disk => exact ⟨Disk.spares_putFile free put, rfl, rfl, rfl⟩

theorem calm_loadSettings (home : Home) : Leaves Calm (loadSettings home) := by
  have printed (loaded : Settings.Loaded) : Leaves Calm (do
      printLines (loaded.notes.map (noteText (home.childText settingsName)))
      return loaded.settings) :=
    (alike_bind (alike_printLines _) fun _ => leaves_pure isFrame_alike _).of_alike isFrame_calm
  refine leaves_get fun s => ?_
  dsimp only
  split
  · exact isFrame_calm.alike ⟨rfl, rfl, rfl, rfl⟩
  · rename_i usable
    have free : ∀ tables, s.disk.at? (settingsPath home) ≠ some (.other tables) := by
      intro tables there
      apply usable
      simp only [Disk.exists?, Disk.text?, there, Option.isSome_some, Option.isNone_none, Bool.and_self]
    rw [run_bind, run_orStop]
    cases Settings.load (s.disk.text? (settingsPath home)) with
    | error fault => exact isFrame_calm.alike ⟨rfl, rfl, rfl, rfl⟩
    | ok loaded =>
        exact leaves_bind_at isFrame_calm (calm_putFile free loaded.text) fun _ => printed loaded

theorem run_isHere (s : Session) (name : Text) : s.run (CommandLine.isHere name) = (.ok (s.isHere name), s) :=
  rfl

/-- Where the home has no store yet, an empty one is made. -/
def makeStore (home : Home) : Activity Unit := do
  printMarked ("[yellow]⚠️ [/yellow]Database not found. Creating new database at ".toList
    ++ home.childText eventsName)
  let _ ← loadSettings home
  putFile (eventsPath home) (.other {})

/-- Opening a home puts folders and text on the disk, and a store where there is nothing. -/
theorem leaves_openHome_at {R : Session → Session → Prop} (frame : IsFrame R)
    (calm : ∀ {s s'}, Calm s s' → R s s') {s : Session} (found : s.home? = .ok home)
    (makes : ∀ s : Session, s.disk.exists? (eventsPath home) = false → R s (s.run (makeStore home)).2)
    (verbose : Bool) : R s (s.run (openHome verbose)).2 := by
  have last : Leaves R (do
      let settings ← loadSettings home
      return ({ home, settings, verbose } : Context)) :=
    leaves_bind frame (fun s => calm (calm_loadSettings home s)) fun _ => leaves_pure frame _
  have led : Home.find s.surroundings (s.isHere settingsName) (s.isHere eventsName) = .ok home := found
  unfold openHome
  rw [run_bind_ok _ (run_isHere s settingsName), run_bind_ok _ (run_isHere s eventsName),
    run_bind_ok _ s.run_get, led, run_bind_ok _ (s.run_orStop (.ok home))]
  refine leaves_bind_at frame (calm (calm_makeFolders home.path s)) fun _ => leaves_get fun s => ?_
  dsimp only
  split
  case' isFalse absent =>
    have free : ∀ tables, s.disk.at? (settingsPath home) ≠ some (.other tables) :=
      fun tables there => absent (Option.isSome_of_mem there)
    rw [run_bind, run_orStop]
    cases Settings.default.write
    case error fault => exact frame.alike ⟨rfl, rfl, rfl, rfl⟩
    case' ok text =>
      dsimp only [Except.mapError]
      refine leaves_bind_at frame (calm (calm_putFile free text)) (fun _ =>
        leaves_bind frame ((alike_printText _).of_alike frame) fun _ => ?_)
  case' isTrue => refine (?_ : Leaves R _) s
  all_goals
    refine leaves_get fun s => ?_
    split
    · exact last s
    · rename_i absent
      have made := makes s (Bool.eq_false_iff.mpr absent)
      have parts := leaves_bind_at frame made fun _ => last
      simp only [makeStore, bind_assoc] at parts
      exact parts

/-- Where the home has a store with these tables, nothing on the disk but text and folders changes. -/
def CalmIn (home : Home) (tables : Tables) (s s' : Session) : Prop :=
  tablesIn s.disk home = some tables → Calm s s'

theorem isFrame_calmIn (home : Home) (tables : Tables) : IsFrame (CalmIn home tables) where
  alike := fun h _ => isFrame_calm.alike h
  trans := fun h h' there =>
    isFrame_calm.trans (h there) (h' (tablesIn_of_spares (h there).spares there))

/-- Opening the home leaves its store as it is. -/
theorem calm_openHome {s : Session} (found : s.home? = .ok home)
    (there : tablesIn s.disk home = some tables) (verbose : Bool) :
    Calm s (s.run (openHome verbose)).2 := by
  refine leaves_openHome_at (isFrame_calmIn home tables) (fun calm _ => calm) found ?_ verbose there
  intro s absent there
  cases absent.symm.trans (exists?_of_tablesIn there)

theorem run_putFile_eq_ok {s after : Session} {p : Path} {node : Node Tables} {x : PUnit}
    (put : s.run (putFile p node) = (.ok x, after)) :
    ∃ disk, s.disk.putFile p node = .ok disk ∧ after = { s with disk } := by
  unfold putFile at put
  rw [run_bind_ok _ s.run_get] at put
  cases made : s.disk.putFile p node with
  | error fault =>
      rw [made] at put
      cases put
  | ok disk =>
      rw [made] at put
      cases put
      exact ⟨disk, rfl, rfl⟩

/-- A home that has been opened is the one that is found, and something is where its store should be. -/
theorem openHome_eq_ok {s after : Session} {c : Context} {verbose : Bool}
    (opened : s.run (openHome verbose) = (.ok c, after)) :
    s.home? = .ok c.home ∧ after.disk.exists? (eventsPath c.home) = true := by
  unfold openHome at opened
  rw [run_bind_ok _ (run_isHere s settingsName), run_bind_ok _ (run_isHere s eventsName),
    run_bind_ok _ s.run_get, run_bind, run_orStop] at opened
  cases found : Home.find s.surroundings (s.isHere settingsName) (s.isHere eventsName) with
  | error fault =>
      rw [found] at opened
      cases opened
  | ok home =>
      rw [found] at opened
      have last {s after : Session} {c : Context} (there : s.disk.exists? (eventsPath home) = true)
          (ran : s.run (do
            let settings ← loadSettings home
            return { home, settings, verbose }) = (.ok c, after)) :
          c.home = home ∧ after.disk.exists? (eventsPath c.home) = true := by
        have calm := calm_loadSettings home s
        rcases run : s.run (loadSettings home) with ⟨stop | settings, between⟩
        · rw [run_bind_error _ run] at ran
          cases ran
        · rw [run_bind_ok _ run] at ran
          rw [run] at calm
          cases ran
          exact ⟨rfl, calm.spares.exists? there⟩
      have here : ∀ {c : Context} {after : Session},
          (c.home = home ∧ after.disk.exists? (eventsPath c.home) = true) →
            s.home? = .ok c.home ∧ after.disk.exists? (eventsPath c.home) = true :=
        fun ⟨same, there⟩ => ⟨found.trans (congrArg Except.ok same.symm), there⟩
      refine here ((?_ : Answers (fun (c : Context) after =>
        c.home = home ∧ after.disk.exists? (eventsPath c.home) = true) _) s c after opened)
      refine answers_bind fun _ => answers_bind fun _ => ?_
      dsimp only
      split
      case' isFalse => refine answers_bind fun _ => answers_bind fun _ => answers_bind fun _ => ?_
      all_goals
        refine answers_get fun s c after ran => ?_
        split at ran
        · rename_i there
          exact last there ran
        · refine (answers_bind fun _ => answers_bind fun _ => ?_ :
            Answers (fun (c : Context) after =>
              c.home = home ∧ after.disk.exists? (eventsPath c.home) = true) _) s c after ran
          intro s c after ran
          rcases run : s.run (putFile (eventsPath home) (.other {})) with ⟨stop | put, between⟩
          · rw [run_bind_error _ run] at ran
            cases ran
          · rw [run_bind_ok _ run] at ran
            obtain ⟨disk, made, rfl⟩ := run_putFile_eq_ok run
            exact last (Option.isSome_of_mem (Disk.at?_putFile made)) ran

/-- The options of a request choose the home, or they end the call. -/
theorem Request.run_openHome (r : Request) (s : Session) :
    s.run r.openHome = Session.run { s with surroundings := r.surroundings s.surroundings }
        (CommandLine.openHome (r.given.hasFlag "--verbose".toList))
      ∨ ∃ fault, s.run r.openHome = (.error (.fault fault), s) := by
  unfold Request.openHome Request.surroundings
  cases r.chosen? with
  | none => exact .inl rfl
  | some t =>
      dsimp only
      unfold chooseHome
      by_cases nul : t.contains (Char.ofNat 0) = true
      · rw [if_pos nul]
        exact .inr ⟨_, rfl⟩
      · have chose : s.run (modify fun s : Session => {
            s with surroundings := { s.surroundings with chosen := some t } })
            = (.ok ⟨⟩, { s with surroundings := { s.surroundings with chosen := some t } }) := rfl
        rw [if_neg nul]
        exact .inl (run_bind_ok _ chose)

/-- The home that is found for a request. -/
def Machine.home? (m : Machine) (r : Request) : Except Fault Home :=
  Home.find (r.surroundings m.surroundings) (m.disk.exists? { names := [settingsName] })
    (m.disk.exists? { names := [eventsName] })

end Opening

/-! The journal. -/

section Journal

/-- A home has been found, and what there was at that time where one stands is there still. -/
def Session.IsHoused (s : Session) : Prop :=
  ∃ home hasSettings hasEvents, Home.find s.surroundings hasSettings hasEvents = .ok home
    ∧ ¬ home.path.HasNul ∧ (hasSettings = true → s.isHere settingsName = true)
    ∧ (hasEvents = true → s.isHere eventsName = true)

theorem Session.IsHoused.grown {s s' : Session} (housed : s.IsHoused) (grows : s.disk.Grows s'.disk)
    (same : s'.surroundings = s.surroundings) : s'.IsHoused := by
  obtain ⟨home, hasSettings, hasEvents, found, usable, settings, events⟩ := housed
  exact ⟨home, hasSettings, hasEvents, same ▸ found, usable, fun here => grows.exists? (settings here),
    fun here => grows.exists? (events here)⟩

theorem isHoused_of_tablesIn {s : Session} {home : Home} {tables : Tables}
    (found : s.home? = .ok home) (there : tablesIn s.disk home = some tables) : s.IsHoused :=
  ⟨home, _, _, found, not_hasNul_of_tablesIn there, fun here => here, fun here => here⟩

/-- Entries are to be written, but the journal cannot have a home. -/
def Context.LosesJournal (c : Context) (s : Surroundings) : Prop :=
  c.settings.journal = true ∧ s.IsMisled

variable {s : Session} {c : Context}

theorem run_journal (on : c.settings.journal = true) (now : Moment) (caller message : Text) :
    s.run (journal c now caller message)
      = match Home.forJournal s.surroundings (s.isHere settingsName) (s.isHere eventsName) with
        | .error fault => (.error (.fault fault), s)
        | .ok home =>
          match Journal.write s.disk home true now s.columns { caller, message } with
          | (disk, .error fault) => (.error (.fault fault), { s with disk })
          | (disk, .ok shown) => (.ok (), { s with disk, printed := s.printed ++ shown }) := by
  unfold journal
  rw [if_pos on, run_bind_ok _ (run_isHere s settingsName), run_bind_ok _ (run_isHere s eventsName),
    run_bind_ok _ s.run_get, run_bind, run_orStop]
  cases Home.forJournal s.surroundings (s.isHere settingsName) (s.isHere eventsName) with
  | error fault => rfl
  | ok home =>
      dsimp only [Except.mapError]
      rcases Journal.write s.disk home true now s.columns { caller, message } with ⟨disk, fault | shown⟩
      · rfl
      · rfl

theorem calm_journal (c : Context) (now : Moment) (caller message : Text) :
    Leaves Calm (journal c now caller message) := by
  intro s
  cases on : c.settings.journal with
  | false =>
      unfold journal
      rw [on]
      exact isFrame_calm.alike ⟨rfl, rfl, rfl, rfl⟩
  | true =>
      rw [run_journal on]
      cases Home.forJournal s.surroundings (s.isHere settingsName) (s.isHere eventsName) with
      | error fault => exact isFrame_calm.alike ⟨rfl, rfl, rfl, rfl⟩
      | ok home =>
          have written := Journal.spares_write s.disk home true now s.columns { caller, message }
          dsimp only
          rcases outcome : Journal.write s.disk home true now s.columns { caller, message }
            with ⟨disk, fault | shown⟩
          · rw [outcome] at written
            exact ⟨written, rfl, rfl, rfl⟩
          · rw [outcome] at written
            exact ⟨written, rfl, rfl, rfl⟩

/-- An entry ends the call where the journal is lost, and else it is written. -/
theorem journal_outcome (housed : s.IsHoused) (now : Moment) (caller message : Text) :
    (c.LosesJournal s.surroundings
        ∧ ∃ fault, (s.run (journal c now caller message)).1 = .error (.fault fault))
      ∨ (¬ c.LosesJournal s.surroundings ∧ (s.run (journal c now caller message)).1 = .ok ()) := by
  cases on : c.settings.journal with
  | false =>
      refine .inr ⟨fun lost => (nomatch on.symm.trans lost.1), ?_⟩
      unfold journal
      rw [on]
      rfl
  | true =>
      obtain ⟨found, hasSettings, hasEvents, led, usable, settings, events⟩ := housed
      have possible := Home.exists_forJournal led usable settings events
      rw [run_journal on]
      by_cases misled : s.surroundings.IsMisled
      · refine .inl ⟨⟨on, misled⟩, ?_⟩
        cases home? : Home.forJournal s.surroundings (s.isHere settingsName) (s.isHere eventsName) with
        | error fault => exact ⟨fault, rfl⟩
        | ok home =>
            have nul : home.path.HasNul :=
              Classical.byContradiction fun free => possible.mp ⟨home, home?, free⟩ misled
            obtain ⟨fault, failed⟩ := (Journal.fails_write s.disk home now s.columns caller message).mpr nul
            dsimp only
            rw [show Journal.write _ _ _ _ _ _ = (_, .error fault) from Prod.ext rfl failed]
            exact ⟨fault, rfl⟩
      · obtain ⟨home, home?, free⟩ := possible.mpr misled
        have written := mt (Journal.fails_write s.disk home now s.columns caller message).mp free
        obtain ⟨shown, written⟩ := exists_of_not_fails written
        rw [home?]
        dsimp only
        rw [show Journal.write _ _ _ _ _ _ = (_, .ok shown) from Prod.ext rfl written]
        exact .inr ⟨fun lost => misled lost.2, rfl⟩

theorem calm_journalNotes (c : Context) (notes : List StoreNote) :
    Leaves Calm (journalNotes c notes) := by
  induction notes with
  | nil => exact leaves_pure isFrame_calm ()
  | cons n rest ih => exact leaves_bind isFrame_calm (calm_journal c _ _ _) fun _ => ih

theorem journalNotes_outcome (housed : s.IsHoused) (notes : List StoreNote) :
    (notes ≠ [] ∧ c.LosesJournal s.surroundings
        ∧ ∃ fault, (s.run (journalNotes c notes)).1 = .error (.fault fault))
      ∨ ((notes = [] ∨ ¬ c.LosesJournal s.surroundings) ∧ (s.run (journalNotes c notes)).1 = .ok ()) := by
  induction notes generalizing s with
  | nil => exact .inr ⟨.inl rfl, rfl⟩
  | cons n rest ih =>
      rcases journal_outcome (c := c) housed n.now n.caller n.message with
        ⟨lost, fault, failed⟩ | ⟨kept, written⟩
      · refine .inl ⟨List.cons_ne_nil n rest, lost, fault, ?_⟩
        rw [journalNotes, run_bind_error _ (Prod.ext failed rfl)]
      · have left := calm_journal c n.now n.caller n.message s
        rw [journalNotes, run_bind_ok _ (Prod.ext written rfl)]
        rcases ih (housed.grown left.spares.toGrows left.surroundings) with ⟨-, lost, -⟩ | ⟨-, rest⟩
        · exact absurd (left.surroundings ▸ lost) kept
        · exact .inr ⟨.inr kept, rest⟩

end Journal

/-- After the home of a request has been opened its store is what it was, and the home in use is the one
that was found. -/
theorem Machine.openHome_outcome {m : Machine} {call : Call} {r : Request} {home : Home}
    {tables : Tables} {answer : Except Stop Context} {s : Session} (found : m.home? r = .ok home)
    (there : tablesIn m.disk home = some tables)
    (opened : (m.session call).run r.openHome = (answer, s)) :
    tablesIn s.disk home = some tables ∧ s.now = call.now ∧ s.base = call.base
      ∧ ∀ c, answer = .ok c → c.home = home ∧ s.surroundings = r.surroundings m.surroundings
        ∧ s.IsHoused := by
  rcases r.run_openHome (m.session call) with chosen | ⟨fault, failed⟩
  · have located : Session.home? { m.session call with
        surroundings := r.surroundings m.surroundings } = .ok home := found
    have calm := calm_openHome located there (r.given.hasFlag "--verbose".toList)
    have ran := chosen.symm.trans opened
    change Session.run { m.session call with surroundings := r.surroundings m.surroundings } _ = _ at ran
    rw [ran] at calm
    refine ⟨tablesIn_of_spares calm.spares there, calm.now, calm.base, ?_⟩
    rintro c rfl
    have same := located.symm.trans (openHome_eq_ok ran).1
    refine ⟨(Except.ok.inj same).symm, calm.surroundings, ?_⟩
    exact (isHoused_of_tablesIn located there).grown calm.spares.toGrows calm.surroundings
  · cases failed.symm.trans opened
    exact ⟨there, rfl, rfl, nofun⟩

/-! The store. -/

section Store

variable {α : Type} {s : Session} {c : Context} {tables : Tables}

/-- What actions on the store of the home depend on. -/
def Context.conditions (c : Context) (now : Moment) (base : DateText.BaseYear) : Conditions where
  now
  base
  queryLimit := c.settings.queryLimit
  horizonYears := c.settings.horizonYears

/-- What has been committed is put in the place of the store, then the notes go to the journal. -/
theorem run_withStore (there : tablesIn s.disk c.home = some tables)
    (action : Conditions → StoreAction α) {result : Except Fault α} {store : Store}
    (done : Store.call { committed := tables, tables } (action (c.conditions s.now s.base)) = (result, store)) :
    ∃ disk, s.disk.putFile (eventsPath c.home) (.other store.committed) = .ok disk
      ∧ s.run (withStore c action)
        = Session.run { s with disk } (journalNotes c store.notes.reverse >>= fun _ => pure result) := by
  have found := tablesIn_eq_some.mp there
  obtain ⟨disk, put⟩ := Disk.exists_putFile found (.other store.committed)
  refine ⟨disk, put, ?_⟩
  have kept : s.run (storedTables c.home) = (.ok tables, s) := by
    unfold storedTables
    rw [run_bind_ok _ s.run_get, found]
    rfl
  have placed : s.run (putFile (eventsPath c.home) (.other store.committed)) = (.ok (), { s with disk }) := by
    unfold putFile
    rw [run_bind_ok _ s.run_get, put]
    rfl
  unfold withStore
  rw [run_bind_ok _ kept, run_bind_ok _ s.run_get]
  have ran : (action {
      now := s.now, base := s.base, queryLimit := c.settings.queryLimit
      horizonYears := c.settings.horizonYears }).run
      { committed := tables, tables } = (result, store) := done
  dsimp only
  rw [ran]
  rw [run_bind_ok _ placed]

/-- The store of the home becomes what has been committed. The call goes on with what the action came
to, unless there is something to note and the journal is lost. -/
theorem withStore_outcome (housed : s.IsHoused) (there : tablesIn s.disk c.home = some tables)
    (action : Conditions → StoreAction α) {result : Except Fault α} {store : Store}
    (done : Store.call { committed := tables, tables } (action (c.conditions s.now s.base)) = (result, store)) :
    ∃ answer after, s.run (withStore c action) = (answer, after)
      ∧ tablesIn after.disk c.home = some store.committed ∧ after.now = s.now ∧ after.base = s.base
      ∧ ((store.notes ≠ [] ∧ c.LosesJournal s.surroundings ∧ ∃ fault, answer = .error (.fault fault))
        ∨ ((store.notes = [] ∨ ¬ c.LosesJournal s.surroundings) ∧ answer = .ok result)) := by
  obtain ⟨disk, put, run⟩ := run_withStore there action done
  have grown : Session.IsHoused { s with disk } := housed.grown (Disk.grows_putFile put) rfl
  have noted := calm_journalNotes c store.notes.reverse { s with disk }
  have kept : tablesIn (Session.run { s with disk } (journalNotes c store.notes.reverse)).2.disk c.home
      = some store.committed :=
    tablesIn_of_spares noted.spares (tablesIn_eq_some.mpr (Disk.at?_putFile put))
  have empty : store.notes.reverse = [] ↔ store.notes = [] := List.reverse_eq_nil_iff
  rcases journalNotes_outcome (c := c) grown store.notes.reverse with
    ⟨some, lost, fault, failed⟩ | ⟨free, written⟩
  · refine ⟨_, _, ?_, kept, noted.now, noted.base, .inl ⟨mt empty.mpr some, lost, fault, rfl⟩⟩
    rw [run, run_bind_error _ (Prod.ext failed rfl)]
  · refine ⟨_, _, ?_, kept, noted.now, noted.base, .inr ⟨free.imp_left empty.mp, rfl⟩⟩
    rw [run, run_bind_ok _ (Prod.ext written rfl)]
    rfl

end Store

end Recurrence.CommandLine
