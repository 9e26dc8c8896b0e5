import Recurrence.CommandLine.Usage
import Recurrence.DateText.Digits
import Recurrence.DateText.Reading
import Recurrence.Rule.Description

/-! Values of parameters as they are written in calls. -/

namespace Recurrence.CommandLine.Value

def text (t : Text) : Except ValueProblem Text := .ok t

def integer (t : Text) : Except ValueProblem Int :=
  match Integer.read t with
  | .ok n => .ok n
  | .error _ => .error (.notAnInteger t)

/-- An integer that is not below a bound. -/
def atLeast (least : Int) (t : Text) : Except ValueProblem Int :=
  match Integer.read t with
  | .ok n => if n < least then .error (.below least n) else .ok n
  | .error _ => .error (.notANumber t)

/-- A day by its digits, or today. -/
def day (today : Date) (t : Text) : Except ValueProblem Date :=
  let t := t.strip.lower
  if t = "today".toList ∨ t = "now".toList then .ok today
  else
    match DateText.dashed? t with
    | some d => .ok d
    | none => .error .notADay

def moment (here : DateText.Standpoint) (t : Text) : Except ValueProblem Moment :=
  match DateText.moment? here t.strip with
  | .ok (some m) => .ok m
  | .ok none => .error .notAMoment
  | .error fault => .error (.failed fault)

def language (t : Text) : Except ValueProblem Language :=
  match [Language.chinese, Language.english].find? fun l => l.code == t with
  | some l => .ok l
  | none => .error (.notOneOf t [Language.chinese.code, Language.english.code])

end Recurrence.CommandLine.Value
