import Recurrence.CommandLine.Usage

/-! The arguments of a call: options with and without values, and other words. Where several
parameters are faulty, the fault reported is that of the parameter whose turn is first: options
have their turns as they were given, then the words, then the options left out. -/

namespace Recurrence.CommandLine

/-- An option that is known. Those that take no value are flags. -/
structure OptionForm where
  /-- The name, with its hyphens. -/
  name : Text
  /-- The letter of a flag that may stand behind one hyphen. -/
  letter : Option Char := none
  isFlag : Bool := false

/-- Arguments told apart: options with their values, in the order given, and the other words. -/
structure Given where
  options : List (Text × Text) := []
  words : List Text := []

namespace Given

def addOption (g : Given) (name value : Text) : Given :=
  { g with options := g.options ++ [(name, value)] }

/-- The flags with the letters behind a single hyphen. -/
def addFlags (forms : List OptionForm) : Given → (letters : Text) → Except UsageFault Given
  | g, [] => .ok g
  | g, c :: r =>
    match forms.find? fun f => f.letter == some c with
    | none => .error (.noSuchOption ['-', c] [])
    | some f => addFlags forms (g.addOption f.name []) r

/-- Tells arguments apart, the first of them the value of a pending option if there is one. Two
hyphens alone end the options; so does the first other word, unless options may stand anywhere. -/
def readFrom (forms : List OptionForm) (anywhere : Bool) :
    (pending : Option Text) → Given → List Text → Except UsageFault Given
  | some name, _, [] => .error (.valueMissing name)
  | none, g, [] => .ok g
  | some name, g, value :: rest => readFrom forms anywhere none (g.addOption name value) rest
  | none, g, argument :: rest =>
    if argument = ['-', '-'] then .ok { g with words := g.words ++ rest }
    else if argument.head? ≠ some '-' ∨ argument.length = 1 then
      if anywhere then readFrom forms anywhere none { g with words := g.words ++ [argument] } rest
      else .ok { g with words := g.words ++ argument :: rest }
    else
      let (name, value?) :=
        match argument.cut? '=' with
        | none => (argument, none)
        | some (name, value) => (name, some value)
      match forms.find? fun f => f.name == name with
      | some f =>
        match f.isFlag, value? with
        | true, none => readFrom forms anywhere none (g.addOption name []) rest
        | true, some _ => .error (.valueOfFlag name)
        | false, some value => readFrom forms anywhere none (g.addOption name value) rest
        | false, none => readFrom forms anywhere (some name) g rest
      | none =>
        if ['-', '-'].isPrefixOf argument then
          .error (.noSuchOption name (Text.alike name (forms.map OptionForm.name)))
        else
          match g.addFlags forms (argument.drop 1) with
          | .error fault => .error fault
          | .ok g => readFrom forms anywhere none g rest

def read (forms : List OptionForm) (anywhere : Bool) (arguments : List Text) :
    Except UsageFault Given :=
  readFrom forms anywhere none {} arguments

end Given

/-- When a parameter is looked at: its phase, and its place there. -/
structure Turn where
  phase : Nat
  place : Nat

def Turn.before (a b : Turn) : Bool :=
  decide (a.phase < b.phase) || (a.phase == b.phase && decide (a.place < b.place))

/-- What parameters came to: a value, or the fault with the first turn. -/
inductive Checked (α : Type)
  | value (value : α)
  | faulty (turn : Turn) (fault : UsageFault)

namespace Checked

def both {α β : Type} : Checked (α → β) → Checked α → Checked β
  | value f, value a => value (f a)
  | value _, faulty turn fault => faulty turn fault
  | faulty turn fault, value _ => faulty turn fault
  | faulty t fault, faulty u other => if u.before t then faulty u other else faulty t fault

instance : Applicative Checked where
  pure := value
  seq f a := both f (a ())

def toExcept {α : Type} : Checked α → Except UsageFault α
  | value a => .ok a
  | faulty _ fault => .error fault

end Checked

namespace Given

def hasFlag (g : Given) (name : Text) : Bool := g.options.any fun o => o.1 == name

def turnOfOption (g : Given) (name : Text) : Turn :=
  match g.options.findIdx? fun o => o.1 == name with
  | some place => ⟨0, place⟩
  | none => ⟨2, 0⟩

def values (g : Given) (name : Text) : List Text :=
  (g.options.filter fun o => o.1 == name).map Prod.snd

/-- A value, or the fault of a parameter. -/
def checked {α : Type} (turn : Turn) (name : Text) : Except ValueProblem α → Checked α
  | .ok a => .value a
  | .error problem => .faulty turn (.invalidValue name problem)

/-- The value of an option that may be missing; if it is given twice the last holds. -/
def option? {α : Type} (g : Given) (name : Text) (read : Text → Except ValueProblem α) :
    Checked (Option α) :=
  match (g.values name).getLast? with
  | none => .value none
  | some t => checked (g.turnOfOption name) name ((read t).map some)

/-- The value of an option that must be given. -/
def option {α : Type} (g : Given) (name : Text) (read : Text → Except ValueProblem α) : Checked α :=
  match (g.values name).getLast? with
  | none => .faulty (g.turnOfOption name) (.optionMissing name)
  | some t => checked (g.turnOfOption name) name (read t)

/-- All values of an option. -/
def each {α : Type} (g : Given) (name : Text) (read : Text → Except ValueProblem α) :
    Checked (List α) :=
  checked (g.turnOfOption name) name ((g.values name).mapM read)

/-- The word at a place, which must be there. -/
def word {α : Type} (g : Given) (place : Nat) (name : Text) (read : Text → Except ValueProblem α) :
    Checked α :=
  match g.words[place]? with
  | none => .faulty ⟨1, place⟩ (.argumentMissing name)
  | some t => checked ⟨1, place⟩ name (read t)

/-- All words, of which there must be one. -/
def allWords (g : Given) (name : Text) : Checked (List Text) :=
  if g.words.isEmpty then .faulty ⟨1, 0⟩ (.argumentMissing (name ++ "...".toList))
  else .value g.words

end Given

end Recurrence.CommandLine
