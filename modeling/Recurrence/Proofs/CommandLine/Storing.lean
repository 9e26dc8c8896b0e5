import Recurrence.Proofs.CommandLine.Opening
import Recurrence.Proofs.Store.Calls
import Recurrence.Proofs.Store.Outcome

/-! What a command makes of the stores on the disk. Opening the home may add an empty store. After that a
command leaves all stores as they are, or it puts what one call on the store of its home has committed
in the place of that store. -/

namespace Recurrence.CommandLine

open Session

open DateText (Standpoint)

/-- The rule that a command reads in a text. -/
def ruleIn? (here : Standpoint) (text : Text) : Option Rule :=
  match Phrase.read here text with
  | .ok (some (rule, _)) => some rule
  | _ => none

/-- The call on the store that a command makes to change it. -/
def Command.storeCall? (here : Standpoint) : Command → Option Store.Call
  | add title text anchor =>
    (ruleIn? here text).bind fun rule =>
      anchor.ends.toOption.map fun (start, finish) => .create (some title) start finish rule none
  | cancel id day => some (.cancel id day)
  | modify id day title start finish => some (.modify id day title start finish)
  | move id day start finish => some (.move id day (some start) finish)
  | restore id day => some (.restore id day)
  | split id day none title => some (.split id day none title none)
  | split id day (some []) title => some (.split id day none title none)
  | split id day (some text) title =>
    (ruleIn? here text).map fun rule => .split id day (some rule) title none
  | delete id _ => some (.delete id)
  | _ => none

/-- What a command makes of tables: they stay, or its call commits others. -/
def Command.Makes (command : Command) (c : Conditions) (t t' : Tables) : Prop :=
  t' = t ∨ ∃ call, command.storeCall? c.standpoint = some call
    ∧ t' = (Store.after { committed := t, tables := t } c call).committed

/-! Opening a home. -/

/-- The stores are what they were, but for new ones that are empty. -/
structure Session.Founds (s s' : Session) : Prop where
  now : s'.now = s.now
  base : s'.base = s.base
  stores : ∀ P : Tables → Prop, P {} → s.disk.AllContent P → s'.disk.AllContent P

theorem isFrame_founds : IsFrame Founds where
  alike := fun h => ⟨h.now, h.base, fun _ _ held => h.disk ▸ held⟩
  trans := fun h h' => ⟨h'.now.trans h.now, h'.base.trans h.base,
    fun P empty held => h'.stores P empty (h.stores P empty held)⟩

theorem Session.Calm.founds {s s' : Session} (h : Calm s s') : Founds s s' :=
  ⟨h.now, h.base, fun _ _ held => held.of_spares h.spares⟩

theorem Session.Founds.here {s s' : Session} (h : Founds s s') : s'.here = s.here := by
  rw [Session.here, Session.here, h.now, h.base]

theorem founds_makeStore (home : Home) : Leaves Founds (makeStore home) := by
  refine leaves_bind isFrame_founds ((alike_printMarked _).of_alike isFrame_founds) fun _ => ?_
  refine leaves_bind isFrame_founds (fun s => (calm_loadSettings home s).founds) fun _ s => ?_
  unfold putFile
  rw [run_bind_ok _ s.run_get]
  cases put : s.disk.putFile (eventsPath home) (.other {}) with
  | error fault => exact isFrame_founds.alike ⟨rfl, rfl, rfl, rfl⟩
  | ok disk => exact ⟨rfl, rfl, fun P held all => all.putFile held put⟩

theorem founds_openHome (verbose : Bool) : Leaves Founds (openHome verbose) := by
  intro s
  cases found : s.home? with
  | ok home =>
      exact leaves_openHome_at isFrame_founds (fun calm => calm.founds) found
        (fun s _ => founds_makeStore home s) verbose
  | error fault =>
      have lost : Home.find s.surroundings (s.isHere settingsName) (s.isHere eventsName)
          = .error fault := found
      unfold openHome
      rw [run_bind_ok _ (run_isHere s settingsName), run_bind_ok _ (run_isHere s eventsName),
        run_bind_ok _ s.run_get, lost]
      exact isFrame_founds.alike ⟨rfl, rfl, rfl, rfl⟩

theorem Request.founds_openHome (r : Request) : Leaves Founds r.openHome := by
  intro s
  rcases r.run_openHome s with chosen | ⟨fault, failed⟩
  · rw [chosen]
    have opened := CommandLine.founds_openHome (r.given.hasFlag "--verbose".toList)
      { s with surroundings := r.surroundings s.surroundings }
    exact ⟨opened.now, opened.base, opened.stores⟩
  · rw [failed]
    exact isFrame_founds.alike ⟨rfl, rfl, rfl, rfl⟩

/-! Acting on the store. -/

/-- The store in the home is another one, and the other stores are what they were. -/
structure Session.Puts (home : Home) (t : Tables) (s s' : Session) : Prop where
  there : tablesIn s'.disk home = some t
  stores : ∀ P : Tables → Prop, P t → s.disk.AllContent P → s'.disk.AllContent P

/-- The stores are what they were, or that in the home has been put anew with tables of a kind. -/
def Session.Turns (home : Home) (Q : Tables → Tables → Prop) (s s' : Session) : Prop :=
  Calm s s' ∨ ∃ t t', tablesIn s.disk home = some t ∧ Q t t' ∧ Puts home t' s s'

section Acting

variable {α β : Type} {s s' s'' : Session} {c : Context} {home : Home} {Q : Tables → Tables → Prop}

theorem Session.Turns.then_calm (h : Turns home Q s s') (calm : Calm s' s'') : Turns home Q s s'' := by
  rcases h with first | ⟨t, t', before, made, put⟩
  · exact .inl (isFrame_calm.trans first calm)
  · refine .inr ⟨t, t', before, made, tablesIn_of_spares calm.spares put.there, ?_⟩
    exact fun P held all => (put.stores P held all).of_spares calm.spares

theorem turns_bind {a : Activity α} {f : α → Activity β} (first : Turns home Q s (s.run a).2)
    (rest : ∀ x, Leaves Calm (f x)) : Turns home Q s (s.run (a >>= f)).2 := by
  rcases run : s.run a with ⟨stop | x, after⟩
  · rw [run] at first
    rw [run_bind_error f run]
    exact first
  · rw [run] at first
    rw [run_bind_ok f run]
    exact first.then_calm (rest x after)

/-- An action on the store of a home that has one, or on whose store is no file of tables. -/
theorem turns_withStore (there : s.disk.exists? (eventsPath c.home) = true)
    (action : Conditions → StoreAction α)
    (made : ∀ t, Q t (Store.call { committed := t, tables := t } (action (c.conditions s.now s.base))).2.committed) :
    Turns c.home Q s (s.run (withStore c action)).2 := by
  cases before : tablesIn s.disk c.home with
  | some t =>
      rcases done : Store.call { committed := t, tables := t } (action (c.conditions s.now s.base)) with
        ⟨result, store⟩
      obtain ⟨disk, put, run⟩ := run_withStore before action done
      have kind := made t
      rw [done] at kind
      have placed : Turns c.home Q s { s with disk } :=
        .inr ⟨t, store.committed, before, kind, tablesIn_eq_some.mpr (Disk.at?_putFile put),
          fun P held all => all.putFile held put⟩
      rw [run]
      exact placed.then_calm (leaves_bind isFrame_calm (calm_journalNotes c _)
        (fun _ => leaves_pure isFrame_calm _) { s with disk })
  | none =>
      left
      obtain ⟨node, found⟩ := Option.isSome_iff_exists.mp there
      have failed : ∃ fault, s.run (storedTables c.home) = (.error (.fault fault), s) := by
        unfold storedTables
        rw [run_bind_ok _ s.run_get, found]
        cases node with
        | other tables => cases before.symm.trans (tablesIn_eq_some.mpr found)
        | folder => exact ⟨_, rfl⟩
        | text content => exact ⟨_, rfl⟩
      obtain ⟨fault, failed⟩ := failed
      unfold withStore
      rw [run_bind_error _ failed]
      exact isFrame_calm.alike ⟨rfl, rfl, rfl, rfl⟩

theorem calm_told (e : Except Fault α) {f : α → Activity β} (rest : ∀ x, Leaves Alike (f x)) :
    Leaves Calm (orFail e >>= f) :=
  (alike_bind (alike_orFail e) rest).of_alike isFrame_calm

end Acting

/-! The commands. -/

section Commands

variable {s : Session} {c : Context}

theorem ruleIn?_eq_some {here : Standpoint} {text : Text} {rule : Rule} {form : Phrase.Form}
    (read : Phrase.read here text = .ok (some (rule, form))) : ruleIn? here text = some rule := by
  rw [ruleIn?, read]

theorem performAdd_turns (there : s.disk.exists? (eventsPath c.home) = true) (title text : Text)
    (anchor : AnchorSpan) :
    Turns c.home ((Command.add title text anchor).Makes (c.conditions s.now s.base)) s
      (s.run (performAdd c title text anchor)).2 := by
  unfold performAdd
  rcases ruleOrFail_outcome s text with ⟨rule, form, read, ran⟩ | ⟨-, stop, ran⟩
  · rw [run_bind_ok _ ran, run_bind, run_orStop]
    cases ends : anchor.ends with
    | error fault => exact .inl (isFrame_calm.alike ⟨rfl, rfl, rfl, rfl⟩)
    | ok span =>
        dsimp only [Except.mapError]
        have call : (Command.add title text anchor).storeCall? s.here
            = some (.create (some title) span.1 span.2 rule none) := by
          change (ruleIn? s.here text).bind _ = _
          rw [ruleIn?_eq_some read, ends]
          rfl
        exact turns_bind (turns_withStore there _ fun t => .inr ⟨_, call, rfl⟩) fun e =>
          calm_told e fun _ => alike_bind (alike_orStop _) fun _ => alike_printMarked _
  · rw [run_bind_error _ (Prod.ext ran rfl)]
    exact .inl (isFrame_calm.alike (alike_ruleOrFail text s))

theorem performList_turns (there : s.disk.exists? (eventsPath c.home) = true) (id : Int)
    (first last : Option Date) :
    Turns c.home ((Command.list id first last).Makes (c.conditions s.now s.base)) s
      (s.run (performList c id first last)).2 := by
  unfold performList
  rw [run_bind_ok _ run_today, run_bind, run_orStop]
  split
  · rename_i day after span
    obtain ⟨-, rfl⟩ := Prod.mk.inj span
    refine turns_bind (turns_withStore there _ fun t => .inl ?_) fun e => calm_told e fun shown => ?_
    · have reads : Store.Keeps (fun t' => t' = t) (do
          let found ← Store.getOccurrences (c.conditions s.now s.base) id
            ⟨first.getD s.now.date, TimeOfDay.midnight, none⟩ ⟨day, TimeOfDay.last, none⟩
          return (found, ← Store.getEvent (c.conditions s.now s.base) id)) :=
        Store.keeps_bind Store.keeps_getOccurrences fun _ =>
          Store.keeps_bind Store.keeps_getEvent fun _ => Store.keeps_pure _
      exact ((reads _ rfl).holds ⟨rfl, rfl⟩).1
    · obtain ⟨⟨occurrences, rule?⟩, event⟩ := shown
      cases rule? with
      | none => exact alike_printMarked _
      | some rule =>
          exact alike_bind (alike_orStop _) fun _ =>
            alike_bind (alike_printMarked _) fun _ => alike_printLines _
  · rename_i fault after span
    obtain ⟨-, rfl⟩ := Prod.mk.inj span
    exact .inl (isFrame_calm.alike ⟨rfl, rfl, rfl, rfl⟩)

theorem performRestore_turns (there : s.disk.exists? (eventsPath c.home) = true) (id : Int)
    (day : Date) :
    Turns c.home ((Command.restore id day).Makes (c.conditions s.now s.base)) s
      (s.run (performRestore c id day)).2 := by
  refine turns_bind (turns_withStore there _ fun t => .inr ⟨_, rfl, rfl⟩) fun e => calm_told e fun was => ?_
  split
  · exact alike_printMarked _
  · exact alike_printMarked _

theorem performSplit_turns (there : s.disk.exists? (eventsPath c.home) = true) (id : Int) (day : Date)
    (text title : Option Text) :
    Turns c.home ((Command.split id day text title).Makes (c.conditions s.now s.base)) s
      (s.run (performSplit c id day text title)).2 := by
  have splits (rule : Option Rule)
      (call : (Command.split id day text title).storeCall? s.here = some (.split id day rule title none)) :
      Turns c.home ((Command.split id day text title).Makes (c.conditions s.now s.base)) s
        (s.run (do
          let new ← orFail (← withStore c fun conditions =>
            Store.splitSeries conditions id day rule title none)
          done ("Split #".toList ++ decimalInt id ++ " at ".toList ++ day.isoText
            ++ ": new series #".toList ++ decimalInt new))).2 :=
    turns_bind (turns_withStore there _ fun t => .inr ⟨_, call, rfl⟩) fun e =>
      calm_told e fun _ => alike_printMarked _
  unfold performSplit
  match text with
  | none => exact splits none rfl
  | some [] => exact splits none rfl
  | some (letter :: rest) =>
      dsimp only
      rw [bind_map_left]
      rcases ruleOrFail_outcome s (letter :: rest) with ⟨rule, form, read, ran⟩ | ⟨-, stop, ran⟩
      · rw [run_bind_ok _ ran]
        apply splits (some rule)
        change (ruleIn? s.here (letter :: rest)).map _ = _
        rw [ruleIn?_eq_some read]
        rfl
      · rw [run_bind_error _ (Prod.ext ran rfl)]
        exact .inl (isFrame_calm.alike (alike_ruleOrFail _ s))

/-- A command on a home that has been opened makes one call on its store at most. -/
theorem perform_turns (there : s.disk.exists? (eventsPath c.home) = true) (command : Command) :
    Turns c.home (command.Makes (c.conditions s.now s.base)) s (s.run (perform c command)).2 := by
  have calm {a : Activity Unit} (h : Leaves Alike a) :
      Turns c.home (command.Makes (c.conditions s.now s.base)) s (s.run a).2 :=
    .inl (isFrame_calm.alike (h s))
  cases command with
  | parse text => exact calm (alike_performParse c text)
  | recognize phrase => exact calm (alike_performRecognize c phrase)
  | validate text => exact calm (alike_performValidate text)
  | describe text language => exact calm (alike_performDescribe c text language)
  | expand text anchor last ceiling cancelled modified =>
      exact calm (alike_performExpand c text anchor last ceiling cancelled modified)
  | add title text anchor => exact performAdd_turns there title text anchor
  | list id first last => exact performList_turns there id first last
  | cancel id day =>
      exact turns_bind (turns_withStore there _ fun t => .inr ⟨_, rfl, rfl⟩) fun e =>
        calm_told e fun _ => alike_printMarked _
  | modify id day title start finish =>
      exact turns_bind (turns_withStore there _ fun t => .inr ⟨_, rfl, rfl⟩) fun e =>
        calm_told e fun _ => alike_printMarked _
  | move id day start finish =>
      exact turns_bind (turns_withStore there _ fun t => .inr ⟨_, rfl, rfl⟩) fun e =>
        calm_told e fun _ => alike_printMarked _
  | restore id day => exact performRestore_turns there id day
  | split id day text title => exact performSplit_turns there id day text title
  | delete id confirmed =>
      refine turns_bind (turns_withStore there _ fun t => .inr ⟨_, rfl, rfl⟩) fun e => ?_
      refine leaves_bind isFrame_calm ((alike_orFail e).of_alike isFrame_calm) fun _ => leaves_get fun s => ?_
      exact leaves_bind isFrame_calm (calm_journal c _ _ _)
        (fun _ => (alike_printMarked _).of_alike isFrame_calm) s

theorem asked_turns {command : Command} (there : s.disk.exists? (eventsPath c.home) = true) :
    Turns c.home (command.Makes (c.conditions s.now s.base)) s
      (s.run (command.ask >>= fun _ => perform c command)).2 := by
  have asked := alike_ask command s
  rcases run : s.run command.ask with ⟨stop | u, between⟩
  · rw [run] at asked
    rw [run_bind_error _ run]
    exact .inl (isFrame_calm.alike asked)
  · rw [run] at asked
    rw [run_bind_ok _ run]
    have same : between.disk = s.disk := asked.disk
    have done := @perform_turns between c (same ▸ there) command
    rw [show between.now = s.now from asked.now, show between.base = s.base from asked.base] at done
    rcases done with calm | ⟨t, t', before, makes, put⟩
    · exact .inl (isFrame_calm.trans (isFrame_calm.alike asked) calm)
    · exact .inr ⟨t, t', same ▸ before, makes, put.there, fun P held all => put.stores P held (same ▸ all)⟩

end Commands

/-! Calls of the program. -/

namespace Machine

variable {m : Machine} {call : Call} {c : Context} {s : Session} {command : Command}

theorem Runs.founds (runs : m.Runs call c s command) : Founds (m.session call) s := by
  obtain ⟨request, -, opened, -⟩ := runs
  have founds := request.founds_openHome (m.session call)
  rw [opened] at founds
  exact founds

theorem exists?_of_openHome {request : Request}
    (opened : (m.session call).run request.openHome = (.ok c, s)) :
    s.disk.exists? (eventsPath c.home) = true := by
  rcases request.run_openHome (m.session call) with chosen | ⟨fault, failed⟩
  · exact (openHome_eq_ok (chosen.symm.trans opened)).2
  · cases failed.symm.trans opened

theorem Runs.exists? (runs : m.Runs call c s command) : s.disk.exists? (eventsPath c.home) = true := by
  obtain ⟨request, -, opened, -⟩ := runs
  exact exists?_of_openHome opened

/-- What a command that is run makes of the stores is what the call leaves of them. -/
theorem Runs.turns (runs : m.Runs call c s command) :
    ∃ after, (m.call call).1.disk = after.disk
      ∧ Turns c.home (command.Makes (c.conditions call.now call.base)) s after := by
  have now : s.now = call.now := runs.founds.now
  have base : s.base = call.base := runs.founds.base
  refine ⟨_, congrArg (fun left => left.2.disk) (runs.run runs.founds.here), ?_⟩
  rw [← now, ← base]
  exact asked_turns runs.exists?

/-- A call that runs no command adds empty stores at most. -/
theorem founds_of_not_runs (idle : ∀ c s command, ¬ m.Runs call c s command) :
    Founds (m.session call) ((m.session call).run (runProgram call.arguments)).2 := by
  cases asked : call.request? with
  | none => exact isFrame_founds.alike (alike_runProgram asked _)
  | some request =>
      have founds := request.founds_openHome (m.session call)
      rw [run_runProgram asked]
      rcases opened : (m.session call).run request.openHome with ⟨stop | c, s⟩
      · rw [opened] at founds
        rw [run_bind_error _ opened]
        exact founds
      · rw [opened] at founds
        rw [run_bind_ok _ opened]
        cases made : request.command? call.here with
        | some command => exact absurd ⟨request, asked, opened, made⟩ (idle c s command)
        | none =>
            have unmade : request.name.command? s.here request.arguments = none := by
              rw [show s.here = call.here from founds.here]
              exact made
            exact isFrame_founds.trans founds (isFrame_founds.alike (alike_runCommand unmade))

/-- What is known of all stores is known after a call, if empty stores have it and the command that is run
keeps it in the store of its home. -/
theorem allContent_call {P : Tables → Prop} (empty : P {}) (held : m.disk.AllContent P)
    (keeps : ∀ c s command t t', m.Runs call c s command → tablesIn s.disk c.home = some t →
      command.Makes (c.conditions call.now call.base) t t' → tablesIn (m.call call).1.disk c.home = some t' →
      P t → P t') : (m.call call).1.disk.AllContent P := by
  by_cases idle : ∀ c s command, ¬ m.Runs call c s command
  · exact (founds_of_not_runs idle).stores P empty held
  · simp only [not_forall, not_not] at idle
    obtain ⟨c, s, command, runs⟩ := idle
    have before : s.disk.AllContent P := runs.founds.stores P empty held
    obtain ⟨after, left, turns⟩ := runs.turns
    rw [left] at keeps ⊢
    rcases turns with calm | ⟨t, t', there, makes, put⟩
    · exact before.of_spares calm.spares
    · have kept := before.at? (tablesIn_eq_some.mp there)
      exact put.stores P (keeps c s command t t' runs there makes put.there kept) before

/-- The machine after one call after the other. -/
def after (m : Machine) (calls : List Call) : Machine := calls.foldl (fun m call => (m.call call).1) m

theorem after_append (m : Machine) (before rest : List Call) :
    m.after (before ++ rest) = (m.after before).after rest := List.foldl_append

end Machine

end Recurrence.CommandLine
