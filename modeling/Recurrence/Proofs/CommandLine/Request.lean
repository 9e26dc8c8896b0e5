import Recurrence.Proofs.CommandLine.Activity

/-! What a call asks for. The options before the command choose the home; the command is made of its
own arguments only after the home has been opened. A call that asks for no command, or whose arguments
make none, prints something and leaves everything as it was. -/

namespace Recurrence.CommandLine

open Session

open DateText (Standpoint)

/-- The command that the arguments behind its name make. There is none where something is wrong with the
arguments, or where they ask for help. -/
def CommandName.command? (name : CommandName) (here : Standpoint) (arguments : List Text) :
    Option Command :=
  match Given.read name.forms true arguments with
  | .error _ => none
  | .ok given =>
    if given.hasFlag "--help".toList then none
    else
      match Command.ofGiven here name given, name.unexpected given with
      | .value command, [] => some command
      | _, _ => none

/-- A command that is asked for: the options before its name, and the arguments behind it. -/
structure Request where
  given : Given
  name : CommandName
  arguments : List Text

namespace Request

/-- The folder that the options choose for the home. -/
def chosen? (r : Request) : Option Text :=
  ((r.given.values "--home".toList).getLast?).filter fun t => !t.isEmpty

/-- The surroundings of the call, with the chosen folder in them. -/
def surroundings (r : Request) (s : Surroundings) : Surroundings :=
  match r.chosen? with
  | some t => { s with chosen := some t }
  | none => s

/-- Chooses the home and opens it. -/
def openHome (r : Request) : Activity Context := do
  match r.chosen? with
  | some t => chooseHome t
  | none => pure ()
  CommandLine.openHome (r.given.hasFlag "--verbose".toList)

/-- The command that is made of the arguments. -/
def command? (r : Request) (here : Standpoint) : Option Command := r.name.command? here r.arguments

end Request

/-- Where the dates of a call are read from. -/
def Call.here (call : Call) : Standpoint := ⟨call.now.date, call.base⟩

/-- The command that the arguments of a call ask for. -/
def Call.request? (call : Call) : Option Request :=
  match Given.read programForms false call.arguments with
  | .error _ => none
  | .ok given =>
    match information? given, given.words with
    | none, word :: rest => (CommandName.ofText? word).map fun name => ⟨given, name, rest⟩
    | _, _ => none

/-- A command that deletes without having been confirmed asks before. -/
def Command.ask : Command → Activity Unit
  | .delete _ false => confirm
  | _ => pure ()

theorem alike_refuse_bind {α β : Type} (fault : UsageFault) (f : α → Activity β) :
    Leaves Alike (refuse fault >>= f) := by
  intro s
  unfold refuse
  split <;> exact ⟨rfl, rfl, rfl, rfl⟩

theorem alike_ask (command : Command) : Leaves Alike command.ask := by
  unfold Command.ask
  split
  · exact alike_confirm
  · exact leaves_pure isFrame_alike _

theorem ask_bind (command : Command) (a : Activity Unit) :
    (match command with
      | .delete _ false => confirm >>= fun _ => a
      | _ => a) = command.ask >>= fun _ => a := by
  unfold Command.ask
  split
  · rfl
  · exact (pure_bind () fun _ => a).symm

/-! The program opens the home of what is asked for, and then runs the command. -/

section Program

variable {call : Call}

theorem request?_eq_some {r : Request} (asked : call.request? = some r) :
    Given.read programForms false call.arguments = .ok r.given ∧ call.arguments ≠ []
      ∧ information? r.given = none
      ∧ ∃ word, r.given.words = word :: r.arguments ∧ CommandName.ofText? word = some r.name := by
  unfold Call.request? at asked
  split at asked
  · cases asked
  · rename_i given read
    split at asked
    · rename_i word rest uninformed words
      obtain ⟨name, named, rfl⟩ := Option.map_eq_some_iff.mp asked
      refine ⟨read, ?_, uninformed, word, words, named⟩
      intro empty
      rw [empty] at read
      cases read
      cases words
    · cases asked

theorem run_runProgram {r : Request} (asked : call.request? = some r) :
    runProgram call.arguments = r.openHome >>= fun c => runCommand c r.name r.arguments := by
  obtain ⟨read, nonempty, uninformed, word, words, named⟩ := request?_eq_some asked
  have isEmpty : call.arguments.isEmpty = false := List.isEmpty_eq_false_iff.mpr nonempty
  unfold runProgram Request.openHome Request.chosen?
  rw [read, isEmpty]
  dsimp only [orRefuse]
  rw [pure_bind, if_neg Bool.false_ne_true, uninformed, words]
  dsimp only
  rw [named]
  dsimp only
  rcases (r.given.values "--home".toList).getLast? with _ | _ | ⟨c, t⟩
  · rfl
  · rfl
  · simp only [Option.filter_some, List.isEmpty_cons, Bool.not_false, if_true, bind_assoc]

theorem alike_refuseCommand (word : Text) (rest : List Text) :
    Leaves Alike (refuseCommand word rest) := by
  refine alike_bind (alike_orRefuse _) fun given => ?_
  split
  · exact alike_printText _
  · exact alike_refuse _

theorem alike_runProgram (unasked : call.request? = none) :
    Leaves Alike (runProgram call.arguments) := by
  unfold Call.request? at unasked
  unfold runProgram
  cases read : Given.read programForms false call.arguments with
  | error fault => exact alike_refuse_bind fault _
  | ok given =>
      rw [read] at unasked
      dsimp only [orRefuse] at unasked ⊢
      rw [pure_bind]
      split
      · exact alike_printText _
      · split
        · exact alike_printText _
        · exact alike_refuse _
        · rename_i word rest uninformed words
          rw [uninformed, words] at unasked
          rw [Option.map_eq_none_iff.mp unasked]
          exact alike_refuseCommand word rest

end Program

section Arguments

variable {c : Context} {name : CommandName} {arguments : List Text}

theorem command?_eq_some {here : Standpoint} {command : Command}
    (made : name.command? here arguments = some command) :
    ∃ given, Given.read name.forms true arguments = .ok given
      ∧ given.hasFlag "--help".toList = false
      ∧ Command.ofGiven here name given = .value command ∧ name.unexpected given = [] := by
  unfold CommandName.command? at made
  split at made
  · cases made
  · rename_i given read
    split at made
    · cases made
    · rename_i unhelped
      split at made
      · rename_i same none
        cases made
        exact ⟨given, read, Bool.eq_false_iff.mpr unhelped, same, none⟩
      · cases made

/-- Several parameters have values where each of them has one. -/
theorem seq_eq_value {α β : Type} {f : Checked (α → β)} {a : Checked α} {b : β} :
    f <*> a = .value b ↔ ∃ g x, f = .value g ∧ a = .value x ∧ g x = b := by
  change Checked.both f a = .value b ↔ _
  constructor
  · intro made
    cases f with
    | value g =>
        cases a with
        | value x => exact ⟨g, x, rfl, rfl, Checked.value.inj made⟩
        | faulty turn fault => cases made
    | faulty turn fault =>
        cases a with
        | value x => cases made
        | faulty other second =>
            simp only [Checked.both] at made
            split at made <;> cases made
  · rintro ⟨g, x, rfl, rfl, rfl⟩
    rfl

theorem map_eq_value {α β : Type} {f : α → β} {a : Checked α} {b : β} :
    f <$> a = .value b ↔ ∃ x, a = .value x ∧ f x = b := by
  change pure f <*> a = .value b ↔ _
  rw [seq_eq_value]
  constructor
  · rintro ⟨_, x, ⟨⟩, given, same⟩
    exact ⟨x, given, same⟩
  · rintro ⟨x, given, same⟩
    exact ⟨f, x, rfl, given, same⟩

/-- The arguments of an addition make an addition. -/
theorem command?_add {here : Standpoint} {command : Command}
    (made : CommandName.add.command? here arguments = some command) :
    ∃ title text anchor, command = .add title text anchor := by
  obtain ⟨given, -, -, read, -⟩ := command?_eq_some made
  obtain ⟨withAnchor, anchor, first, -, rfl⟩ := seq_eq_value.mp read
  obtain ⟨withText, text, second, -, rfl⟩ := seq_eq_value.mp first
  obtain ⟨title, -, rfl⟩ := map_eq_value.mp second
  exact ⟨title, text, anchor, rfl⟩

/-- A length in minutes is not negative, whether it is given or not. -/
theorem minutes_of_anchor {here : Standpoint} {given : Given} {anchor : AnchorSpan}
    (made : Command.anchor here given = .value anchor) : 0 ≤ anchor.minutes := by
  obtain ⟨withFinish, minutes, first, length, rfl⟩ := seq_eq_value.mp made
  obtain ⟨withStart, finish, second, -, rfl⟩ := seq_eq_value.mp first
  obtain ⟨start, -, rfl⟩ := map_eq_value.mp second
  obtain ⟨told?, told, rfl⟩ := map_eq_value.mp length
  change 0 ≤ told?.getD 60
  unfold Given.option? at told
  split at told
  · cases told
    decide
  · rename_i t _
    unfold Value.atLeast at told
    cases read : Integer.read t with
    | error fault =>
        rw [read] at told
        cases told
    | ok n =>
        rw [read] at told
        dsimp only at told
        split at told
        · cases told
        · rename_i enough
          cases told
          exact Int.not_lt.mp enough

theorem minutes_of_command? {here : Standpoint} {title text : Text} {anchor : AnchorSpan}
    (made : name.command? here arguments = some (.add title text anchor)) : 0 ≤ anchor.minutes := by
  obtain ⟨given, -, -, read, -⟩ := command?_eq_some made
  cases name with
  | add =>
      obtain ⟨withText, span, first, last, same⟩ := seq_eq_value.mp read
      obtain ⟨withTitle, words, second, -, rfl⟩ := seq_eq_value.mp first
      obtain ⟨_, -, rfl⟩ := map_eq_value.mp second
      cases same
      exact minutes_of_anchor last
  | _ => simp [Command.ofGiven, seq_eq_value, map_eq_value] at read

theorem run_runCommand {command : Command} {s : Session}
    (made : name.command? s.here arguments = some command) :
    s.run (runCommand c name arguments) = s.run (command.ask >>= fun _ => perform c command) := by
  obtain ⟨given, read, unhelped, same, none⟩ := command?_eq_some made
  unfold runCommand
  rw [read]
  dsimp only [orRefuse]
  rw [pure_bind, unhelped, if_neg Bool.false_ne_true, run_bind_ok _ run_standpoint,
    same]
  dsimp only [Checked.toExcept]
  rw [pure_bind, none]
  exact congrArg s.run (ask_bind command (perform c command))

theorem alike_runCommand {s : Session} (unmade : name.command? s.here arguments = none) :
    Alike s (s.run (runCommand c name arguments)).2 := by
  unfold CommandName.command? at unmade
  unfold runCommand
  cases read : Given.read name.forms true arguments with
  | error fault => exact alike_refuse_bind fault _ s
  | ok given =>
      rw [read] at unmade
      dsimp only [orRefuse] at unmade ⊢
      rw [pure_bind]
      split
      · exact alike_printText _ s
      · rename_i unhelped
        rw [if_neg unhelped] at unmade
        rw [run_bind_ok _ run_standpoint]
        cases same : Command.ofGiven s.here name given with
        | faulty turn fault => exact alike_refuse_bind fault _ s
        | value command =>
            rw [same] at unmade
            dsimp only [Checked.toExcept] at unmade ⊢
            rw [pure_bind]
            have several : name.unexpected given ≠ [] := by
              intro none
              rw [none] at unmade
              cases unmade
            obtain ⟨word, words, unexpected⟩ := List.exists_cons_of_ne_nil several
            rw [unexpected]
            split
            · exact alike_bind alike_confirm (fun _ => alike_refuse _) s
            · exact alike_refuse _ s

end Arguments

/-! What a call leaves of the machine. -/

namespace Machine

/-- The session that a call begins with. -/
def session (m : Machine) (call : Call) : Session where
  disk := m.disk
  surroundings := m.surroundings
  now := call.now
  base := call.base
  columns := call.columns
  input := inputLines call.input

variable (m : Machine) {call : Call} {answer : Except Stop Unit} {last : Session}

theorem disk_call (call : Call) :
    (m.call call).1.disk = ((m.session call).run (runProgram call.arguments)).2.disk := rfl

variable {m}

theorem code_of_ok (answered : ((m.session call).run (runProgram call.arguments)).1 = .ok ()) :
    (m.call call).2.code = 0 := by
  have ran : (runProgram call.arguments).run (m.session call) = (.ok (), _) := Prod.ext answered rfl
  unfold session at ran
  rw [Machine.call, ran]

theorem code_of_fault {fault : Fault}
    (failed : ((m.session call).run (runProgram call.arguments)).1 = .error (.fault fault)) :
    (m.call call).2.code = 1 := by
  have ran : (runProgram call.arguments).run (m.session call) = (.error (.fault fault), _) :=
    Prod.ext failed rfl
  unfold session at ran
  rw [Machine.call, ran]

/-- A call opens a home, and in the session that this leaves it runs a command. -/
def Runs (m : Machine) (call : Call) (c : Context) (s : Session) (command : Command) : Prop :=
  ∃ request, call.request? = some request ∧ (m.session call).run request.openHome = (.ok c, s)
    ∧ request.command? call.here = some command

theorem Runs.run {c : Context} {s : Session} {command : Command} (runs : m.Runs call c s command)
    (here : s.here = call.here) :
    (m.session call).run (runProgram call.arguments)
      = s.run (command.ask >>= fun _ => perform c command) := by
  obtain ⟨request, asked, opened, made⟩ := runs
  rw [run_runProgram asked, run_bind_ok _ opened]
  exact run_runCommand (here ▸ made)

end Machine

end Recurrence.CommandLine
