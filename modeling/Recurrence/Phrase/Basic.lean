import Recurrence.Pattern
import Recurrence.Phrase.Numeral
import Recurrence.Rule.Text

/-! Rules from short phrases, Chinese and English. The phrases stand in a table; the first whose
pattern is found in the text gives the rule. Plain phrases look ahead, so that they leave a
phrase with a day or a weekday to its own entry. -/

namespace Recurrence.Phrase

open Pattern

def word (s : String) : Pattern := literal s.toList

/-- A word or several, with blanks between them, that stand by themselves. -/
def words (parts : List Pattern) : Pattern :=
  sequence [boundary, sequence (parts.intersperse (oneOrMore isBlank)), boundary]

/-- A numeral of digits, of Chinese signs, or an English number word, kept as a group. -/
def numeral (index : Nat) : Pattern :=
  group index
    (choice (oneOrMore isDigit :: oneOrMore isChineseNumeral :: englishNumbers.map literal))

/-- The sign for a week. -/
def week : Pattern := choice [word "周", word "星期"]

/-- The sign that may stand between a numeral and a unit. -/
def measure : Pattern := optional (word "个")

/-- The characters that name a weekday. -/
def weekdaySigns : Text := "一二三四五六日天".toList

def isDayNumeral (c : Char) : Bool := "零一二三四五六七八九十".toList.contains c

/-- A day of the month, kept as group 1: one or two digits or a Chinese numeral, with or without
the sign for a day, and no number of times. -/
def monthDay : Pattern :=
  sequence [
    group 1 (choice [
      sequence [char isDigit, optional (char isDigit), notAhead (char isDigit)],
      sequence [oneOrMore isDayNumeral, notAhead (char isDayNumeral)]]),
    zeroOrMore isBlank, optional (oneOf "号日".toList),
    notAhead (sequence [zeroOrMore isBlank, word "次"])]

/-- The first parts of the English weekday names. -/
def englishWeekdays : List (Text × Weekday) :=
  [("mon".toList, .monday), ("tues".toList, .tuesday), ("wednes".toList, .wednesday),
   ("thurs".toList, .thursday), ("fri".toList, .friday), ("satur".toList, .saturday),
   ("sun".toList, .sunday)]

def chineseWeekday? : Text → Option Weekday
  | ['一'] => some .monday
  | ['二'] => some .tuesday
  | ['三'] => some .wednesday
  | ['四'] => some .thursday
  | ['五'] => some .friday
  | ['六'] => some .saturday
  | ['日'] => some .sunday
  | ['天'] => some .sunday
  | _ => none

def englishWeekday? (t : Text) : Option Weekday :=
  (englishWeekdays.find? fun e => e.1 == t).map Prod.snd

/-- The first group that holds text. -/
def firstGroup (p : Place) : Text :=
  match p.group? 1 with
  | some (c :: r) => c :: r
  | _ => (p.group? 2).getD []

/-- A rule without a group. -/
def plain (rule : Rule) (_ : Place) : Except Fault Rule := .ok rule

/-- The number in the phrase is the interval; one that cannot be read leaves it open. -/
def everyFew (frequency : Frequency) (p : Place) : Except Fault Rule :=
  (number? (firstGroup p)).map fun interval => { frequency := some frequency, interval }

/-- The weekday is known by its Chinese sign or else by its English name. -/
def onWeekday (p : Place) : Except Fault Rule :=
  let rule := fun w : Weekday => { frequency := some .weekly, byDay := [w.code] : Rule }
  match p.group? 1 with
  | some sign =>
    match chineseWeekday? sign with
    | some w => .ok (rule w)
    | none => .error (.unknownWeekday sign)
  | none =>
    let name := ((p.group? 2).getD []).lower
    match englishWeekday? name with
    | some w => .ok (rule w)
    | none => .error (.unknownWeekday name)

def onMonthDay (p : Place) : Except Fault Rule :=
  (number? (firstGroup p)).map fun day =>
    { frequency := some .monthly, byMonthDay := day.toList }

def workdays : List Text := [Weekday.monday, .tuesday, .wednesday, .thursday, .friday].map Weekday.code

def weekendDays : List Text := [Weekday.saturday, .sunday].map Weekday.code

/-- A phrase and the rule it stands for. -/
structure Entry where
  pattern : Pattern
  rule : Place → Except Fault Rule

def daily : Entry where
  pattern := choice [word "每天", word "每日", words [word "daily"], words [word "every", word "day"]]
  rule := plain { frequency := some .daily }

def everyFewDays : Entry where
  pattern := choice [
    sequence [word "每", numeral 1, oneOf "天日".toList],
    words [word "every", numeral 2, word "days"]]
  rule := everyFew .daily

def weekly : Entry where
  pattern := choice [
    sequence [word "每", week,
      notAhead (sequence [oneOf (weekdaySigns ++ "末".toList), notAhead (word "次")])],
    sequence [notBehind fun c => c == '-' || isWordChar c, word "weekly", boundary],
    words [word "every", word "week"]]
  rule := plain { frequency := some .weekly }

def everyFewWeeks : Entry where
  pattern := choice [
    sequence [word "每", numeral 1, measure, week],
    words [word "every", numeral 2, word "weeks"]]
  rule := everyFew .weekly

def onWorkdays : Entry where
  pattern := choice [
    word "工作日", words [sequence [word "weekday", optional (word "s")]]]
  rule := plain { frequency := some .weekly, byDay := workdays }

def onWeekends : Entry where
  pattern := choice [
    word "周末", words [sequence [word "weekend", optional (word "s")]]]
  rule := plain { frequency := some .weekly, byDay := weekendDays }

def onOneWeekday : Entry where
  pattern := choice [
    sequence [word "每", week, group 1 (oneOf weekdaySigns), notAhead (word "次")],
    words [choice [word "every", word "each"],
      sequence [group 2 (choice (englishWeekdays.map fun e => literal e.1)), word "day",
        optional (word "s")]]]
  rule := onWeekday

/-- No day follows an English phrase. -/
def noDayFollows : Pattern :=
  notAhead (sequence [oneOrMore isBlank, word "on", boundary])

def monthly : Entry where
  pattern := choice [
    sequence [word "每", measure, word "月", notAhead (sequence [zeroOrMore isBlank, monthDay])],
    sequence [words [word "monthly"], noDayFollows],
    sequence [words [word "every", word "month"], noDayFollows]]
  rule := plain { frequency := some .monthly }

def everyFewMonths : Entry where
  pattern := choice [
    sequence [word "每", numeral 1, measure, word "月"],
    words [word "every", numeral 2, word "months"]]
  rule := everyFew .monthly

def onOneMonthDay : Entry where
  pattern := choice [
    sequence [word "每", measure, word "月", zeroOrMore isBlank, monthDay],
    words [
      choice [sequence [word "every", oneOrMore isBlank, word "month"], word "monthly"],
      word "on", word "the",
      sequence [group 2 (sequence [char isDigit, optional (char isDigit)]),
        optional (choice [word "st", word "nd", word "rd", word "th"])]]]
  rule := onMonthDay

def yearly : Entry where
  pattern := choice [
    word "每年", words [word "yearly"], words [word "annually"], words [word "every", word "year"]]
  rule := plain { frequency := some .yearly }

def everyOtherWeek : Entry where
  pattern := choice [
    word "双周", word "隔周",
    words [sequence [word "bi", optional (word "-"), word "weekly"]],
    words [word "every", word "other", word "week"]]
  rule := plain { frequency := some .weekly, interval := some 2 }

/-- The phrases, in the order they are looked for. -/
def table : List Entry :=
  [daily, everyFewDays, weekly, everyFewWeeks, onWorkdays, onWeekends, onOneWeekday, monthly,
   everyFewMonths, onOneMonthDay, yearly, everyOtherWeek]

/-- The rule of the first entry whose pattern is found. -/
def ruleFrom : List Entry → Text → Except Fault (Option Rule)
  | [], _ => .ok none
  | entry :: entries, t =>
    match entry.pattern.find? t with
    | some place => (entry.rule place).map some
    | none => ruleFrom entries t

/-- The rule a text asks for; `none` if no phrase is found in it. -/
def recognize (t : Text) : Except Fault (Option Rule) := ruleFrom table t

/-- How a rule was written. -/
inductive Form
  | ruleText | phrase
  deriving DecidableEq

/-- The rule in a text: first as a rule text, then as a phrase. -/
def read (here : DateText.Standpoint) (t : Text) : Except Fault (Option (Rule × Form)) := do
  match ← Rule.read? here t with
  | some rule => .ok (some (rule, .ruleText))
  | none => (recognize t).map fun rule? => rule?.map fun rule => (rule, .phrase)

end Recurrence.Phrase
