import Recurrence.DateText.Members
import Recurrence.Calendar.Moment
import Recurrence.Calendar.Span

/-! Dates and times in free text. The tokens are read from left to right into fields; what the
text leaves open is taken from where the reader stands: today at midnight. -/

namespace Recurrence.DateText

/-- The year that years of two digits lie around. -/
structure BaseYear where
  year : Nat
  /-- The fifty years on either side of it have four digits. -/
  inside : 1050 ≤ year ∧ year ≤ 9949
  deriving DecidableEq

def BaseYear.millennium : BaseYear := ⟨2000, by decide⟩

/-- The base year of a clock in a year, and 2000 where no clock can be. -/
def BaseYear.around (year : Nat) : BaseYear :=
  if inside : 1050 ≤ year ∧ year ≤ 9949 then ⟨year, inside⟩ else .millennium

/-- The year of two digits that lies within fifty years of the base. -/
def BaseYear.fullYear (base : BaseYear) (y : Nat) (hasCentury : Bool) : Nat :=
  if y < 100 && !hasCentury then
    let year := base.year / 100 * 100 + y
    if base.year + 50 ≤ year then year - 100
    else if year + 50 < base.year then year + 100
    else year
  else y

/-- What a reader takes from elsewhere than the text. -/
structure Standpoint where
  today : Date
  base : BaseYear

/-- What has been read so far. -/
structure Fields where
  members : Members := {}
  weekday : Option Nat := none
  hour : Option Nat := none
  minute : Option Nat := none
  second : Option Nat := none
  micro : Option Nat := none
  zoneName : Option Text := none
  /-- Seconds east of universal time. -/
  zoneOffset : Option Int := none
  /-- The next sign is read the other way round, as after a zone name. -/
  signReversed : Bool := false

/-- Where the reading goes on, and the fields by then. -/
abbrev Step := Except Obstacle (Nat × Fields)

/-- What is missing makes the text no date. -/
def orNoDate {α : Type} : Option α → Except Obstacle α
  | none => .error .noDate
  | some a => .ok a

/-- Seconds and, behind a full stop, microseconds. -/
def secondsOf? (t : Text) : Option (Nat × Nat) :=
  match t.cut? '.' with
  | none => (digitsValue? t).map fun s => (s, 0)
  | some (whole, fraction) =>
    match digitsValue? whole, digitsValue? ((fraction.padRight '0' 6).take 6) with
    | some s, some us => some (s, us)
    | _, _ => none

/-- The hour on the clock of 24 hours; `half` is 0 in the morning and 1 in the afternoon. -/
def hourOfHalfDay (hour half : Nat) : Nat :=
  if hour < 12 ∧ half = 1 then hour + 12 else if hour = 12 ∧ half = 0 then 0 else hour

/-- The unit a number is given in, by the label after it or else the unit next below the label
before it, and where the number with its label ends. -/
def unitLabel? (ts : Array Text) (i : Nat) : Option (Nat × Nat) :=
  let unitAt := fun j => (ts[j]?).bind unit?
  match unitAt (i + 1), unitAt (i + 2) with
  | some u, _ => some (i + 1, u)
  | none, after =>
    let blank := ts[i + 1]? == some [' ']
    match (if blank then after else none), (if 0 < i then unitAt (i - 1) else none) with
    | some u, _ => some (i + 2, u)
    | none, some u => some (i, u + 1)
    | none, none =>
      if 1 < i ∧ i + 1 = ts.size ∧ ts[i - 1]? = some [' '] then
        (unitAt (i - 2)).map fun u => (i, u + 1)
      else none

namespace Fields

/-- Nothing at all has been read. -/
def isEmpty (f : Fields) : Bool :=
  f.members.values.isEmpty && f.weekday.isNone && f.hour.isNone && f.minute.isNone
    && f.second.isNone && f.micro.isNone && f.zoneName.isNone && f.zoneOffset.isNone

def setMembers (f : Fields) (next : Nat) (ms : Option Members) : Step :=
  (orNoDate ms).map fun members => (next, { f with members })

/-- A number of hours, minutes or seconds; a fraction goes into the unit below. -/
def setUnit (f : Fields) (next : Nat) (token : Text) (n : Numeral) : Nat → Step
  | 0 =>
    n.remainder.map fun minute =>
      (next, { f with hour := some n.whole, minute := minute.or f.minute })
  | 1 => n.remainder.map fun second => (next, { f with minute := some n.whole, second })
  | 2 =>
    (orNoDate (secondsOf? token)).map fun p =>
      (next, { f with second := some p.1, micro := some p.2 })
  | _ => .ok (next, f)

/-- Hours and minutes, or after a date two or four digits run together. -/
def clockDigits (f : Fields) (i : Nat) (token : Text) : Step :=
  match digitsValue? (token.take 2) with
  | none => .error .noDate
  | some hour =>
    if token.length = 4 then
      (orNoDate (digitsValue? (token.drop 2))).map fun minute =>
        (i + 1, { f with hour := some hour, minute := some minute })
    else .ok (i + 1, { f with hour := some hour })

/-- Six digits: a short date if none has begun, else a time to the second. -/
def sixDigits (f : Fields) (i : Nat) (token : Text) : Step :=
  if f.members.values.isEmpty && !token.contains '.' then
    f.setMembers (i + 1) do
      let ms ← f.members.addToken? (token.take 2) .unknown
      let ms ← ms.addToken? ((token.drop 2).take 2) .unknown
      ms.addToken? (token.drop 4) .unknown
  else
    match digitsValue? (token.take 2), digitsValue? ((token.drop 2).take 2),
        secondsOf? (token.drop 4) with
    | some hour, some minute, some (second, micro) =>
      .ok (i + 1, { f with
        hour := some hour, minute := some minute, second := some second, micro := some micro })
    | _, _, _ => .error .noDate

/-- Eight digits are a date; twelve and fourteen go on with the time. -/
def longDigits (f : Fields) (i : Nat) (token : Text) : Step := do
  let ms ← orNoDate (f.members.addToken? (token.take 4) .year)
  let ms ← orNoDate (ms.addToken? ((token.drop 4).take 2) .unknown)
  let ms ← orNoDate (ms.addToken? ((token.drop 6).take 2) .unknown)
  let f := { f with members := ms }
  if token.length = 8 then .ok (i + 1, f)
  else
    let hour ← orNoDate (digitsValue? ((token.drop 8).take 2))
    let minute ← orNoDate (digitsValue? ((token.drop 10).take 2))
    let f := { f with hour := some hour, minute := some minute }
    if token.length = 12 then .ok (i + 1, f)
    else
      let second ← orNoDate (digitsValue? (token.drop 12))
      .ok (i + 1, { f with second := some second })

/-- Hours, a colon, minutes, and perhaps a colon and seconds. -/
def clock (f : Fields) (ts : Array Text) (i : Nat) (n : Numeral) : Step := do
  let minutes ← orNoDate (ts[i + 2]?.bind Numeral.of?)
  let second ← minutes.remainder
  let f := { f with hour := some n.whole, minute := some minutes.whole, second }
  match ts[i + 3]?, ts[i + 4]? with
  | some [':'], some token =>
    let (second, micro) ← orNoDate (secondsOf? token)
    .ok (i + 5, { f with second := some second, micro := some micro })
  | _, _ => .ok (i + 3, f)

/-- The members of a date around a separator; the second and third may be month names. -/
def separated (f : Fields) (ts : Array Text) (i : Nat) (token sep : Text) : Step := do
  let ms ← orNoDate (f.members.addToken? token .unknown)
  match ts[i + 2]? with
  | none => f.setMembers (i + 2) (some ms)
  | some second =>
    if isFiller second then f.setMembers (i + 2) (some ms)
    else
      let ms ← orNoDate
        (if second.all isDigitLike then ms.addToken? second .unknown
        else (month? second).bind ms.addMonth?)
      if ts[i + 3]? = some sep then
        let third ← orNoDate ts[i + 4]?
        match month? third with
        | some month => f.setMembers (i + 5) (ms.addMonth? month)
        | none => f.setMembers (i + 5) (ms.addToken? third .unknown)
      else f.setMembers (i + 3) (some ms)

/-- A number standing alone: the hour if a half of the day follows, else part of the date. -/
def alone (f : Fields) (ts : Array Text) (i : Nat) (n : Numeral) : Step :=
  match ts[i + 2]?.bind halfDay? with
  | some half => .ok (i + 3, { f with hour := some (hourOfHalfDay n.whole half) })
  | none => f.setMembers (i + 2) (f.members.addNumeral? n)

/-- A number is read by its length, the labels around it and what follows it, in that order. -/
def number (f : Fields) (ts : Array Text) (i : Nat) (token : Text) (n : Numeral) : Step :=
  let next := ts[i + 1]?
  let length := token.length
  if f.members.values.length = 3 ∧ (length = 2 ∨ length = 4) ∧ f.hour.isNone
      ∧ next ≠ some [':'] ∧ (next.bind unit?).isNone then
    f.clockDigits i token
  else if length = 6 ∨ (6 < length ∧ token.findIdx (· == '.') = 6) then f.sixDigits i token
  else if length = 8 ∨ length = 12 ∨ length = 14 then f.longDigits i token
  else
    match unitLabel? ts i with
    | some (last, u) => f.setUnit (last + 1) token n u
    | none =>
      if next = some [':'] ∧ i + 2 < ts.size then f.clock ts i n
      else
        match next with
        | none => f.alone ts i n
        | some sep =>
          if sep = ['-'] ∨ sep = ['/'] ∨ sep = ['.'] then f.separated ts i token sep
          else if isFiller sep then f.alone ts i n
          else
            match halfDay? sep with
            | some half =>
              if n.whole < 24 then
                .ok (i + 2, { f with hour := some (hourOfHalfDay n.whole half) })
              else if f.members.couldBeDay n then
                f.setMembers (i + 1) (f.members.addNumeral? n)
              else .error .noDate
            | none =>
              if f.members.couldBeDay n then f.setMembers (i + 1) (f.members.addNumeral? n)
              else .error .noDate

/-- A month name, with the day or the year that may hang on it. -/
def monthName (f : Fields) (base : BaseYear) (ts : Array Text) (i month : Nat) : Step := do
  let ms ← orNoDate (f.members.addMonth? month)
  match ts[i + 1]? with
  | some sep =>
    if sep = ['-'] ∨ sep = ['/'] then
      let ms ← orNoDate (ts[i + 2]?.bind fun t => ms.addToken? t .unknown)
      if ts[i + 3]? = some sep then
        f.setMembers (i + 5) (ts[i + 4]?.bind fun t => ms.addToken? t .unknown)
      else f.setMembers (i + 3) (some ms)
    else
      match ts[i + 2]?, ts[i + 3]?, ts[i + 4]? with
      | some word, some [' '], some token =>
        if sep = [' '] ∧ word.lower = "of".toList then
          if token.all isDigitLike then
            let year ← orNoDate (digitsValue? token)
            f.setMembers (i + 5) (ms.add? (base.fullYear year false) true .year)
          else f.setMembers (i + 5) (some ms)
        else f.setMembers (i + 1) (some ms)
      | _, _, _ => f.setMembers (i + 1) (some ms)
  | none => f.setMembers (i + 1) (some ms)

/-- A zone name. A sign after it says how far the zone's clock is from the time given, so it is
read the other way round, and universal time is then not what is meant. -/
def zone (f : Fields) (ts : Array Text) (i : Nat) (token : Text) : Step :=
  let signed := ts[i + 1]? == some ['+'] || ts[i + 1]? == some ['-']
  let universal := isUniversalName token
  .ok (i + 1, { f with
    zoneName := if signed && universal then none else some token
    zoneOffset := if universal && !signed then some 0 else none
    signReversed := signed })

/-- An offset of hours, or of hours and minutes with or without a colon; a zone name in
brackets may follow. -/
def signedOffset (f : Fields) (ts : Array Text) (i : Nat) (negative : Bool) : Step := do
  let digits ← orNoDate ts[i + 1]?
  let (hours, minutes, last) ←
    if digits.length = 4 then do
      let h ← orNoDate (digitsValue? (digits.take 2))
      let m ← orNoDate (digitsValue? (digits.drop 2))
      .ok (h, m, i)
    else if ts[i + 2]? = some [':'] then do
      let h ← orNoDate (digitsValue? digits)
      let m ← orNoDate (ts[i + 3]?.bind digitsValue?)
      .ok (h, m, i + 2)
    else if digits.length ≤ 2 then (orNoDate (digitsValue? digits)).map fun h => (h, 0, i)
    else .error .noDate
  let seconds : Int := hours * 3600 + minutes * 60
  let f := { f with
    zoneOffset := some (if negative != f.signReversed then -seconds else seconds)
    signReversed := false }
  match ts[last + 2]?, ts[last + 3]?, ts[last + 4]?, ts[last + 5]? with
  | some filler, some ['('], some name, some [')'] =>
    if isFiller filler ∧ 3 ≤ name.length ∧ f.zoneName.isNone ∧ isZoneLike name then
      .ok (last + 6, { f with zoneName := some name })
    else .ok (last + 2, f)
  | _, _, _, _ => .ok (last + 2, f)

/-- Reads the token at a position. -/
def step (f : Fields) (base : BaseYear) (ts : Array Text) (i : Nat) : Step := do
  let token ← orNoDate ts[i]?
  match Numeral.of? token with
  | some n => f.number ts i token n
  | none =>
    if ["nan".toList, "inf".toList, "infinity".toList].contains token.lower then .error .noDate
    else
      match weekday? token, month? token, halfDay? token with
      | some weekday, _, _ => .ok (i + 1, { f with weekday := some weekday })
      | none, some month, _ => f.monthName base ts i month
      | none, none, some half =>
        match f.hour with
        | some hour =>
          if hour ≤ 12 then .ok (i + 1, { f with hour := some (hourOfHalfDay hour half) })
          else .error .noDate
        | none => .error .noDate
      | none, none, none =>
        if f.hour.isSome ∧ f.zoneName.isNone ∧ f.zoneOffset.isNone ∧ isZoneLike token then
          f.zone ts i token
        else if f.hour.isSome ∧ (token = ['+'] ∨ token = ['-']) then
          f.signedOffset ts i (token == ['-'])
        else if isFiller token then .ok (i + 1, f)
        else .error .noDate

/-- Reads all tokens from a position on; every step moves on, so `fuel` tokens suffice. -/
def readFrom (base : BaseYear) (ts : Array Text) : Nat → Nat → Fields → Except Obstacle Fields
  | 0, _, f => .ok f
  | fuel + 1, i, f =>
    if i < ts.size then
      match f.step base ts i with
      | .ok (next, f) => readFrom base ts fuel next f
      | .error obstacle => .error obstacle
    else .ok f

/-- The offset of the zone that was named or written, if it is known. -/
def offset (f : Fields) : Option Int :=
  match f.zoneName with
  | some name => if isUniversalName name then some 0 else f.zoneOffset
  | none => f.zoneOffset

/-- The moment the fields stand for. A missing day is today's, or the last of a shorter month; a
weekday without a day is the next such day. The offset has to be a duration. -/
def moment? (f : Fields) (here : Standpoint) : Option Moment := do
  let today := here.today
  let parts ← f.members.resolve?
  let year := (parts.year.map fun y => here.base.fullYear y f.members.hasCentury).getD today.year
  let month := parts.month.getD today.month
  let day := parts.day.getD (min today.day (daysInMonth year month))
  let date ← Date.of? year month day
  let time ← TimeOfDay.of? (f.hour.getD 0) (f.minute.getD 0) (f.second.getD 0) (f.micro.getD 0)
  let date ←
    match f.weekday, parts.day with
    | some w, none => Date.ofOrdinal? (date.ordinal + (7 + w - date.weekday.index) % 7 : Nat)
    | _, _ => some date
  if f.offset.all fun seconds => (Duration.ofUnits 0 0 0 seconds 0).isOk then
    some { date, time, offset := f.offset }
  else none

end Fields

/-- The moment a text tells, taken from the standpoint where it is silent. -/
def read (here : Standpoint) (t : Text) : Except Obstacle Moment := do
  let ts := (tokens t).toArray
  let fields ← Fields.readFrom here.base ts ts.size 0 {}
  if fields.isEmpty then .error .noDate else orNoDate (fields.moment? here)

/-- The moment a text tells, if it is a date. -/
def moment? (here : Standpoint) (t : Text) : Except Fault (Option Moment) :=
  match read here t with
  | .ok m => .ok (some m)
  | .error .noDate => .ok none
  | .error .indivisible => .error .divisionImpossible

/-- The day a text tells, white space around it ignored. -/
def day? (here : Standpoint) (t : Text) : Except Fault (Option Date) :=
  if t.strip.isEmpty then .ok none else (moment? here t.strip).map fun m => m.map Moment.date

end Recurrence.DateText
