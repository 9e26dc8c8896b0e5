import Recurrence.CommandLine.Perform

/-! Calls of the program: the options that stand before the command, the command with its own
arguments, and what the call leaves behind. -/

namespace Recurrence.CommandLine

def programForms : List OptionForm :=
  [{ name := "--version".toList, isFlag := true }, { name := "--home".toList },
   { name := "--verbose".toList, letter := some 'v', isFlag := true },
   { name := "--help".toList, isFlag := true }]

def versionText : Text := "rrkit version 0.1.0".toList

/-- The names of the commands, as help. -/
def helpText : Text :=
  "Usage: rrkit [OPTIONS] COMMAND [ARGS]...\nCommands: ".toList
    ++ Text.joined [',', ' '] (CommandName.all.map CommandName.text)

/-- The options and words of a command, as help. -/
def commandHelp (n : CommandName) : Text :=
  Text.joined [' '] ("Usage: rrkit".toList :: n.text :: "[OPTIONS]".toList
    :: n.words.map String.toList)

def question : Text := "Delete the whole series and its exceptions? [y/N]:".toList

/-- Yes or no; an empty line says no. -/
def answerOf (line : Text) : Option Bool :=
  let t := line.lower.strip
  if t = "y".toList ∨ t = "yes".toList then some true
  else if t = "n".toList ∨ t = "no".toList ∨ t = [] then some false
  else none

/-- Puts the question until a line answers it: what is printed, the answer, and the lines left. At
the end of the input there is no answer. -/
def ask : List Text → Text × Option Bool × List Text
  | [] => (question, none, [])
  | line :: rest =>
    let shown := question ++ ' ' :: line ++ ['\n']
    match answerOf line with
    | some answer => (shown, some answer, rest)
    | none =>
      let (more, answer) := ask rest
      (shown ++ "Error: invalid input\n".toList ++ more, answer)

/-- What is said when a call ends at a question. -/
def abortedText : Text := "Aborted!\n".toList

/-- Asks whether to go on; without a yes the call ends. -/
def confirm : Activity Unit := do
  let s ← get
  let (shown, answer, input) := ask s.input
  set { s with input, printed := s.printed ++ shown }
  match answer with
  | some true => pure ()
  | some false =>
    printText abortedText
    throw (.exit 1)
  | none => throw .unanswered

/-- A fault of the arguments is told, and ends the call. Where the reading of a value fails, that ends
the call as it is. -/
def refuse {α : Type} : UsageFault → Activity α
  | .invalidValue _ (.failed fault) => throw (.fault fault)
  | fault => do
    printLine ("Error: ".toList ++ fault.message)
    throw (.exit 2)

def orRefuse {α : Type} : Except UsageFault α → Activity α
  | .ok a => pure a
  | .error fault => refuse fault

/-- Runs a command. Words that are too many are refused after a deletion has been confirmed. -/
def runCommand (c : Context) (name : CommandName) (arguments : List Text) : Activity Unit := do
  let given ← orRefuse (Given.read name.forms true arguments)
  if given.hasFlag "--help".toList then printLine (commandHelp name)
  else
    let command ← orRefuse (Command.ofGiven (← standpoint) name given).toExcept
    match command with
    | .delete _ false => confirm
    | _ => pure ()
    match name.unexpected given with
    | [] => perform c command
    | words => refuse (.unexpected words)

/-- What is printed in place of a command, if an option asks for it. -/
def information? (given : Given) : Option Text :=
  given.options.findSome? fun (name, _) =>
    if name = "--help".toList then some helpText
    else if name = "--version".toList then some versionText
    else none

/-- Refuses a word that is no command. As options do not count behind two hyphens, the word may be
one: then what is wrong with it as an option is told first, and what it asks for is printed. -/
def refuseCommand (word : Text) (rest : List Text) : Activity Unit := do
  match information? (← orRefuse (Given.read programForms false (word :: rest))) with
  | some text => printLine text
  | none => refuse (.noSuchCommand word)

/-- Runs the program. The home is opened once the command is known, before its arguments are
looked at. -/
def runProgram (arguments : List Text) : Activity Unit := do
  let given ← orRefuse (Given.read programForms false arguments)
  if arguments.isEmpty then printLine helpText
  else
    match information? given, given.words with
    | some text, _ => printLine text
    | none, [] => refuse .commandMissing
    | none, word :: rest =>
      match CommandName.ofText? word with
      | none => refuseCommand word rest
      | some name =>
        match (given.values "--home".toList).getLast? with
        | some (c :: r) => chooseHome (c :: r)
        | _ => pure ()
        let c ← openHome (given.hasFlag "--verbose".toList)
        runCommand c name rest

/-- What calls share. -/
structure Machine where
  disk : Disk Tables := {}
  surroundings : Surroundings := {}

structure Call where
  arguments : List Text
  input : Text := []
  now : Moment
  /-- The year that years of two digits lie around. -/
  base : DateText.BaseYear
  /-- The width of the terminal. -/
  columns : Nat := 80

/-- How a call ended, and what it printed. -/
structure Outcome where
  code : Nat
  fault : Option Fault := none
  /-- The last that was printed is a question that found no answer. -/
  isUnanswered : Bool := false
  printed : Text

/-- All that is printed by the end of a call. -/
def Outcome.text (o : Outcome) : Text := if o.isUnanswered then o.printed ++ abortedText else o.printed

/-- The lines of an input; each kind of line end ends a line. -/
def inputLines (t : Text) : List Text :=
  let lines := Text.lines (withLineFeeds t)
  if lines.getLast? = some [] then lines.dropLast else lines

/-- Makes a call. The folder chosen in it is not kept for the next one. -/
def Machine.call (m : Machine) (call : Call) : Machine × Outcome :=
  let (result, s) := (runProgram call.arguments).run {
    disk := m.disk, surroundings := m.surroundings, now := call.now, base := call.base
    columns := call.columns, input := inputLines call.input }
  let printed := s.printed
  ({ m with disk := s.disk },
    match result with
    | .ok () => { code := 0, printed }
    | .error (.exit code) => { code, printed }
    | .error .unanswered => { code := 1, isUnanswered := true, printed }
    | .error (.fault fault) => { code := 1, fault := some fault, printed })

end Recurrence.CommandLine
