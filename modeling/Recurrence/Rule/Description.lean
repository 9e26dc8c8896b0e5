import Recurrence.Rule.Basic
import Recurrence.Text.Integer

/-! Rules in words, in Chinese and in English. -/

namespace Recurrence

inductive Language
  | chinese | english
  deriving DecidableEq

namespace Language

def code : Language → Text
  | chinese => ['z', 'h']
  | english => ['e', 'n']

/-- English by its code; every other text means Chinese. -/
def ofText (t : Text) : Language := if t = english.code then english else chinese

end Language

/-- An English ordinal numeral. -/
def ordinalText (n : Int) : Except Fault Text :=
  let ending :=
    if 10 ≤ n % 100 ∧ n % 100 ≤ 20 then ['t', 'h']
    else if n % 10 = 1 then ['s', 't']
    else if n % 10 = 2 then ['n', 'd']
    else if n % 10 = 3 then ['r', 'd']
    else ['t', 'h']
  (Integer.write n).map (· ++ ending)

namespace Frequency

/-- The unit the interval counts. -/
def englishUnit : Frequency → Text
  | daily => "day".toList
  | weekly => "week".toList
  | monthly => "month".toList
  | yearly => "year".toList

/-- The rule of interval one. -/
def englishName : Frequency → Text
  | daily => "Every day".toList
  | weekly => "Weekly".toList
  | monthly => "Monthly".toList
  | yearly => "Yearly".toList

def chineseUnit : Frequency → Text
  | daily => "天".toList
  | weekly => "周".toList
  | monthly => "月".toList
  | yearly => "年".toList

end Frequency

namespace Rule

def weekdayName (name : Weekday → Text) (code : Text) : Text :=
  ((Weekday.ofCode? code).map name).getD code

/-- A rule without a frequency is described as a yearly one. -/
def chinese (r : Rule) : Except Fault Text := do
  let frequency := r.frequency.getD .yearly
  let every ← if r.step = 1 then .ok [] else Integer.write r.step
  let days ←
    match frequency with
    | .weekly => .ok (Text.joined "、".toList (r.byDay.map (weekdayName Weekday.chineseName)))
    | .monthly =>
      if r.byMonthDay.isEmpty then .ok []
      else (Integer.writeAll "、".toList r.byMonthDay).map (· ++ "号".toList)
    | _ => .ok []
  let bound ←
    match r.count?, r.ends with
    | some n, _ => (Integer.write n).map fun t => "，共".toList ++ t ++ "次".toList
    | none, some s =>
      .ok ("，直到".toList ++ decimal s.date.year ++ '/' :: decimal s.date.month
        ++ '/' :: decimal s.date.day)
    | none, none => .ok []
  .ok ("每".toList ++ every ++ frequency.chineseUnit ++ days ++ bound)

def english (r : Rule) : Except Fault Text :=
  match r.frequency with
  | none => .error .nothingToDescribe
  | some frequency => do
    let every ←
      if r.step = 1 then .ok frequency.englishName
      else (Integer.write r.step).map fun t =>
        "Every ".toList ++ t ++ ' ' :: frequency.englishUnit ++ ['s']
    let days ←
      match frequency with
      | .weekly =>
        .ok (if r.byDay.isEmpty then []
          else " on ".toList ++ Text.joined ", ".toList (r.byDay.map (weekdayName Weekday.englishName)))
      | .monthly =>
        if r.byMonthDay.isEmpty then .ok []
        else (r.byMonthDay.mapM ordinalText).map fun ts =>
          " on the ".toList ++ Text.joined ", ".toList ts
      | _ => .ok []
    let bound ←
      match r.count?, r.ends with
      | some n, _ => (Integer.write n).map fun t => ", ".toList ++ t ++ " times".toList
      | none, some s => .ok (", until ".toList ++ s.isoText)
      | none, none => .ok []
    .ok (every ++ days ++ bound)

def describe (language : Language) (r : Rule) : Except Fault Text :=
  match language with
  | .chinese => r.chinese
  | .english => r.english

end Rule

end Recurrence
