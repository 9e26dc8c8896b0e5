import Recurrence.Terminal.Action.Problem

/-! Everything that can go wrong, one constructor for each cause, and the sentence that
reports it. -/

namespace Recurrence

/-- Why nothing can be done at a path. -/
inductive PathProblem
  | hasNul
  /-- A name in it, or all of it, has too many bytes. -/
  | tooLong
  /-- Nothing is there, or on the way there. -/
  | missing
  /-- What is on the way there is no folder. -/
  | notAFolder
  /-- Something is there already. -/
  | taken
  | isFolder
  deriving DecidableEq

/-- Why the store cannot be used. -/
inductive StoreProblem
  /-- What stands in its place is none. -/
  | notOpened
  /-- All ids are used up. -/
  | full
  /-- What belongs to deleted events goes down too many levels. -/
  | tooDeep
  deriving DecidableEq

inductive Fault
  /-- A text that should be an integer is none. -/
  | notAnInteger (text : Text)
  /-- An integer text has more digits than are read. -/
  | tooManyDigits (digits : Nat)
  /-- An integer has more digits than are written. -/
  | tooLongToWrite
  | yearOutOfRange (year : Int)
  | yearBeyondWord
  | yearBelowWord
  | yearBeyondLongWord
  | dayOutOfMonth
  | dateOutOfRange
  | durationOutOfRange (days : Int)
  | durationBeyondWord
  /-- A moment with an offset and one without have no distance. -/
  | mixedDistance
  | mixedOrder
  /-- An offset from universal time is a day or more. -/
  | offsetOutOfRange
  /-- A moment has no order relative to a whole day. -/
  | momentAgainstDay
  | unreadableMoment
  /-- A quotient has more digits than are kept. -/
  | divisionImpossible
  | storedMomentMismatch (text : Text)
  | storedMomentTail (text : Text)
  | secondOutOfRange
  | unknownFrequency (name : Text)
  | frequencyMissing
  | nothingToDescribe
  /-- There is no rule to ask for one of its parts. -/
  | ruleMissing (part : Text)
  | unknownWeekday (name : Text)
  | unknownOverride (shown : Text)
  | unreadableOverrideDay (shown : Text)
  | noSuchVersion
  | eventNotFound (id : Int)
  | invalidRule (problems : List Text)
  | titleMissing
  | parentMissing
  | integerBeyondStore
  | userFolderUnknown
  | unusablePath (path : Text) (problem : PathProblem)
  | storeUnavailable {problem : StoreProblem}
  | closingTagWithoutOpening (tag : Text) (position : Nat)
  | closingTagWithNothingOpen (position : Nat)
  /-- What a tag hands to its action is no expression; `read` is the part that was read. -/
  | unreadableParameters (read written : Text) (problem : Terminal.ExpressionProblem)
  /-- What a tag hands to its action is no plain value. -/
  | unusableParameters (written : Text) (problem : Terminal.ValueProblem)
  deriving DecidableEq

/-- The sentence that reports a problem with a path. -/
def PathProblem.message (path : Text) : PathProblem → Text
  | hasNul => "embedded null byte".toList
  | tooLong => "[Errno 36] File name too long: ".toList ++ path.quoted
  | missing => "[Errno 2] No such file or directory: ".toList ++ path.quoted
  | notAFolder => "[Errno 20] Not a directory: ".toList ++ path.quoted
  | taken => "[Errno 17] File exists: ".toList ++ path.quoted
  | isFolder => "[Errno 21] Is a directory: ".toList ++ path.quoted

def StoreProblem.message : StoreProblem → Text
  | notOpened => "unable to open database file".toList
  | full => "database or disk is full".toList
  | tooDeep => "too many levels of trigger recursion".toList

namespace Fault

/-- The sentence that reports a fault. -/
def message : Fault → Text
  | notAnInteger text => "invalid literal for int() with base 10: ".toList ++ text.quoted
  | tooManyDigits digits =>
    "Exceeds the limit (4300 digits) for integer string conversion: value has ".toList
      ++ decimal digits
      ++ " digits; use sys.set_int_max_str_digits() to increase the limit".toList
  | tooLongToWrite =>
    ("Exceeds the limit (4300 digits) for integer string conversion; ".toList
      ++ "use sys.set_int_max_str_digits() to increase the limit".toList)
  | yearOutOfRange year => "year ".toList ++ decimalInt year ++ " is out of range".toList
  | yearBeyondWord => "signed integer is greater than maximum".toList
  | yearBelowWord => "signed integer is less than minimum".toList
  | yearBeyondLongWord => "Python int too large to convert to C long".toList
  | dayOutOfMonth => "day is out of range for month".toList
  | dateOutOfRange => "date value out of range".toList
  | durationOutOfRange days =>
    "days=".toList ++ decimalInt days ++ "; must have magnitude <= 999999999".toList
  | durationBeyondWord => "Python int too large to convert to C int".toList
  | mixedDistance => "can't subtract offset-naive and offset-aware datetimes".toList
  | mixedOrder => "can't compare offset-naive and offset-aware datetimes".toList
  | offsetOutOfRange =>
    ("offset must be a timedelta strictly between ".toList
      ++ "-timedelta(hours=24) and timedelta(hours=24).".toList)
  | momentAgainstDay => "can't compare datetime.datetime to datetime.date".toList
  | unreadableMoment => []
  | divisionImpossible => "[<class 'decimal.DivisionImpossible'>]".toList
  | storedMomentMismatch text =>
    "time data ".toList ++ text.quoted ++ " does not match format '%Y%m%dT%H%M%S'".toList
  | storedMomentTail text => "unconverted data remains: ".toList ++ text
  | secondOutOfRange => "second must be in 0..59".toList
  | unknownFrequency name => name.quoted ++ " is not a valid Frequency".toList
  | frequencyMissing => "None is not a valid Frequency".toList
  | nothingToDescribe => "None".toList
  | ruleMissing part => "'NoneType' object has no attribute ".toList ++ part.quoted
  | unknownWeekday name => name.quoted
  | unknownOverride shown => shown ++ " is not a valid ExceptionType".toList
  | unreadableOverrideDay shown => "invalid exception date: ".toList ++ shown
  | noSuchVersion => "list index out of range".toList
  | eventNotFound id => "no event with id ".toList ++ decimalInt id
  | invalidRule problems =>
    "invalid recurrence rule: ".toList ++ Text.joined "; ".toList problems
  | titleMissing => "NOT NULL constraint failed: Events.title".toList
  | parentMissing => "FOREIGN KEY constraint failed".toList
  | integerBeyondStore => "Python int too large to convert to SQLite INTEGER".toList
  | unusablePath path problem => problem.message path
  | @storeUnavailable problem => problem.message
  | userFolderUnknown => "Could not determine home directory.".toList
  | closingTagWithoutOpening tag position =>
    "closing tag '[/".toList ++ tag ++ "]' at position ".toList ++ decimal position
      ++ " doesn't match any open tag".toList
  | closingTagWithNothingOpen position =>
    "closing tag '[/]' at position ".toList ++ decimal position
      ++ " has nothing to close".toList
  | unreadableParameters read written problem =>
    "error parsing ".toList ++ read.quoted ++ " in ".toList ++ written.quoted ++ "; ".toList
      ++ problem.message
  | unusableParameters written problem =>
    "error parsing ".toList ++ written.quoted ++ "; ".toList ++ problem.message

end Fault

end Recurrence
