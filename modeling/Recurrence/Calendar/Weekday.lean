import Recurrence.Text.Basic

/-! The seven weekdays with the names rules and tables use. -/

namespace Recurrence

inductive Weekday
  | monday | tuesday | wednesday | thursday | friday | saturday | sunday
  deriving DecidableEq

namespace Weekday

def all : List Weekday := [monday, tuesday, wednesday, thursday, friday, saturday, sunday]

/-- Monday is 0. -/
def index : Weekday → Nat
  | monday => 0 | tuesday => 1 | wednesday => 2 | thursday => 3 | friday => 4
  | saturday => 5 | sunday => 6

def ofIndex (n : Nat) : Weekday :=
  match n % 7 with
  | 0 => monday | 1 => tuesday | 2 => wednesday | 3 => thursday | 4 => friday
  | 5 => saturday | _ => sunday

/-- The two-letter code of rule texts. -/
def code : Weekday → Text
  | monday => ['M', 'O'] | tuesday => ['T', 'U'] | wednesday => ['W', 'E']
  | thursday => ['T', 'H'] | friday => ['F', 'R'] | saturday => ['S', 'A'] | sunday => ['S', 'U']

def ofCode? (t : Text) : Option Weekday := all.find? fun w => w.code == t

def englishName : Weekday → Text
  | monday => "Mon".toList | tuesday => "Tue".toList | wednesday => "Wed".toList
  | thursday => "Thu".toList | friday => "Fri".toList | saturday => "Sat".toList
  | sunday => "Sun".toList

def chineseName : Weekday → Text
  | monday => "周一".toList | tuesday => "周二".toList | wednesday => "周三".toList
  | thursday => "周四".toList | friday => "周五".toList | saturday => "周六".toList
  | sunday => "周日".toList

end Weekday

end Recurrence
