import Recurrence.Fault
import Recurrence.Text.Quoted
import Recurrence.Text.Likeness

/-! What can be wrong with the arguments of a call, and the sentence that says so. -/

namespace Recurrence.CommandLine

/-- Why a text is no value of a parameter. -/
inductive ValueProblem
  | notAnInteger (text : Text)
  /-- A text that should be an integer above a bound is none. -/
  | notANumber (text : Text)
  | below (least value : Int)
  | notADay
  | notAMoment
  | notOneOf (text : Text) (choices : List Text)
  /-- The reading of the text fails. -/
  | failed (fault : Fault)
  deriving DecidableEq

def ValueProblem.message : ValueProblem → Text
  | notAnInteger text => text.quoted ++ " is not a valid integer.".toList
  | notANumber text => text.quoted ++ " is not a valid integer range.".toList
  | below least value =>
    decimalInt value ++ " is not in the range x>=".toList ++ decimalInt least ++ ['.']
  | notADay => "Expected YYYY-MM-DD or 'today'".toList
  | notAMoment => "Expected a datetime such as '2024-01-01 09:00'".toList
  | notOneOf text choices =>
    text.quoted ++ " is not one of ".toList
      ++ Text.joined [',', ' '] (choices.map Text.quoted) ++ ['.']
  | failed fault => fault.message

inductive UsageFault
  | commandMissing
  | noSuchCommand (name : Text)
  /-- An option that is not known, with known ones like it. -/
  | noSuchOption (name : Text) (alike : List Text)
  | valueMissing (option : Text)
  | valueOfFlag (option : Text)
  | argumentMissing (name : Text)
  | optionMissing (name : Text)
  | invalidValue (name : Text) (problem : ValueProblem)
  | unexpected (arguments : List Text)
  deriving DecidableEq

/-- A name between apostrophes. -/
def apostrophes (name : Text) : Text := '\'' :: name ++ ['\'']

def UsageFault.message : UsageFault → Text
  | commandMissing => "Missing command.".toList
  | noSuchCommand name => "No such command ".toList ++ name.quoted ++ ['.']
  | noSuchOption name alike =>
    "No such option: ".toList ++ name
      ++ match alike with
        | [] => []
        | [one] => " Did you mean ".toList ++ one ++ ['?']
        | several => " (Possible options: ".toList ++ Text.joined [',', ' '] several ++ [')']
  | valueMissing option => "Option ".toList ++ option.quoted ++ " requires an argument.".toList
  | valueOfFlag option => "Option ".toList ++ option.quoted ++ " does not take a value.".toList
  | argumentMissing name => "Missing argument ".toList ++ apostrophes name ++ ['.']
  | optionMissing name => "Missing option ".toList ++ apostrophes name ++ ['.']
  | invalidValue name problem =>
    "Invalid value for ".toList ++ apostrophes name ++ ": ".toList ++ problem.message
  | unexpected arguments =>
    "Got unexpected extra argument".toList
      ++ (if arguments.length = 1 then [] else ['s'])
      ++ " (".toList ++ Text.joined [' '] arguments ++ [')']

end Recurrence.CommandLine
