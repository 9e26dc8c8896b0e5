import Recurrence.Text.Word
import Recurrence.Text.Digit
import Recurrence.Text.Blank
import Recurrence.Text.Case

/-! The tokens of a date in free text. A token is a word, a number that may have a fraction, a
blank, or a single other character. Words and numbers glued together by full stops come apart
at the stops. -/

namespace Recurrence.DateText

/-- Why the reading of a text ends early. -/
inductive Obstacle
  /-- The text is no date. -/
  | noDate
  /-- A number in it is too long to be divided. -/
  | indivisible
  deriving DecidableEq

/-- What the token under way is so far. -/
inductive Mode
  | word | number | dottedWord | dottedNumber
  deriving DecidableEq

/-- The mode after the next character of a token, `none` if the character is not part of it.
`last` is the token's last character and `length` its length. -/
def Mode.next? (last : Char) (length : Nat) (c : Char) : Mode → Option Mode
  | word => if isLetter c then some word else if c = '.' then some dottedWord else none
  | number =>
    if isDigitLike c then some number
    else if c = '.' ∨ (c = ',' ∧ 2 ≤ length) then some dottedNumber
    else none
  | dottedWord =>
    if c = '.' ∨ isLetter c then some dottedWord
    else if isDigitLike c ∧ last = '.' then some dottedNumber
    else none
  | dottedNumber =>
    if c = '.' ∨ isDigitLike c then some dottedNumber
    else if isLetter c ∧ last = '.' then some dottedWord
    else none

/-- A token as read: its last mode, whether a character was looked at while it was a word, its
characters backwards, and the text after it. -/
structure Run where
  mode : Mode
  sawWord : Bool
  reversed : Text
  rest : Text

/-- Reads on while characters fit. -/
def Run.extend (mode : Mode) (sawWord : Bool) (reversed : Text) : Text → Run
  | [] => ⟨mode, sawWord, reversed, []⟩
  | c :: rest =>
    let saw := sawWord || mode == .word || mode == .dottedWord
    match mode.next? (reversed.headD ' ') reversed.length c with
    | some next => Run.extend next saw (c :: reversed) rest
    | none => ⟨mode, saw, reversed, c :: rest⟩

/-- Pieces between full stops and commas, and these themselves. -/
def splitAtStops : Text → Text → List Text
  | piece, [] => [piece.reverse]
  | piece, c :: r =>
    if c = '.' ∨ c = ',' then piece.reverse :: [c] :: splitAtStops [] r
    else splitAtStops (c :: piece) r

/-- The tokens of one run. -/
def Run.tokens (run : Run) : List Text :=
  let token := run.reversed.reverse
  let dotted := run.mode == .dottedWord || run.mode == .dottedNumber
  if dotted && (run.sawWord || 1 < token.count '.' || run.reversed.headD ' ' == '.'
      || run.reversed.headD ' ' == ',') then
    (splitAtStops [] token).filter fun piece => !piece.isEmpty
  else if run.mode == .dottedNumber && token.count '.' == 0 then
    [token.map fun c => if c = ',' then '.' else c]
  else [token]

def tokensWithin : Nat → Text → List Text
  | 0, _ => []
  | _ + 1, [] => []
  | fuel + 1, c :: rest =>
    if isLetter c then
      let run := Run.extend .word false [c] rest
      run.tokens ++ tokensWithin fuel run.rest
    else if isDigitLike c then
      let run := Run.extend .number false [c] rest
      run.tokens ++ tokensWithin fuel run.rest
    else if isBlank c then [' '] :: tokensWithin fuel rest
    else [c] :: tokensWithin fuel rest

/-- The tokens of a text; NUL characters are passed over. -/
def tokens (t : Text) : List Text :=
  let t := t.filter fun c => c.toNat != 0
  tokensWithin t.length t

/-- A number token: its whole part, and its fraction as digits over a power of ten. -/
structure Numeral where
  whole : Nat
  fraction : Nat
  places : Nat

def digitsValue? (t : Text) : Option Nat :=
  if t.isEmpty then none
  else (t.mapM digitValue?).map fun ds => ds.foldl (fun n d => n * 10 + d) 0

/-- Digits, or digits with one full stop between them. -/
def Numeral.of? (t : Text) : Option Numeral :=
  match t.cut? '.' with
  | none => (digitsValue? t).map fun n => ⟨n, 0, 0⟩
  | some (whole, fraction) =>
    match digitsValue? whole, digitsValue? fraction with
    | some w, some f => some ⟨w, f, fraction.length⟩
    | _, _ => none

/-- Digits over a power of ten, rounded to 28 of them and half to even. -/
def rounded (digits places : Nat) : Nat × Nat :=
  let dropped := (Nat.toDigits 10 digits).length - 28
  let unit := Nat.pow 10 dropped
  let kept := digits / unit
  let rest := 2 * (digits % unit)
  (if unit < rest ∨ (unit = rest ∧ kept % 2 = 1) then kept + 1 else kept, places - dropped)

/-- Sixty times the fraction, rounded down. -/
def Numeral.sixtieths (n : Numeral) : Nat :=
  let (fraction, places) := rounded n.fraction n.places
  let (sixty, places) := rounded (60 * fraction) places
  sixty / Nat.pow 10 places

/-- What a number of units has left for the unit below, if anything. A number of more than 28
digits before the point is not divided. -/
def Numeral.remainder (n : Numeral) : Except Obstacle (Option Nat) :=
  if n.whole < Nat.pow 10 28 then .ok (if n.fraction = 0 then none else some n.sixtieths)
  else .error .indivisible

/-! Words with a meaning, compared without regard to case. -/

def weekdayNames : List (List Text) :=
  [["mon".toList, "monday".toList], ["tue".toList, "tuesday".toList],
   ["wed".toList, "wednesday".toList], ["thu".toList, "thursday".toList],
   ["fri".toList, "friday".toList], ["sat".toList, "saturday".toList],
   ["sun".toList, "sunday".toList]]

def monthNames : List (List Text) :=
  [["jan".toList, "january".toList], ["feb".toList, "february".toList],
   ["mar".toList, "march".toList], ["apr".toList, "april".toList], ["may".toList],
   ["jun".toList, "june".toList], ["jul".toList, "july".toList], ["aug".toList, "august".toList],
   ["sep".toList, "sept".toList, "september".toList], ["oct".toList, "october".toList],
   ["nov".toList, "november".toList], ["dec".toList, "december".toList]]

def unitNames : List (List Text) :=
  [["h".toList, "hour".toList, "hours".toList], ["m".toList, "minute".toList, "minutes".toList],
   ["s".toList, "second".toList, "seconds".toList]]

def halfDayNames : List (List Text) :=
  [["am".toList, "a".toList], ["pm".toList, "p".toList]]

/-- Tokens that may stand anywhere and mean nothing. -/
def fillers : List Text :=
  [" ", ".", ",", ";", "-", "/", "'", "at", "on", "and", "ad", "m", "t", "of", "st", "nd", "rd",
   "th"].map String.toList

def meaning? (names : List (List Text)) (token : Text) : Option Nat :=
  names.findIdx? fun group => group.contains token.lower

/-- Monday is 0. -/
def weekday? : Text → Option Nat := meaning? weekdayNames

/-- January is 1. -/
def month? (token : Text) : Option Nat := (meaning? monthNames token).map (· + 1)

/-- Hours, minutes and seconds are 0, 1 and 2. -/
def unit? : Text → Option Nat := meaning? unitNames

/-- The morning is 0, the afternoon 1. -/
def halfDay? : Text → Option Nat := meaning? halfDayNames

def isFiller (token : Text) : Bool := fillers.contains token.lower

/-- Names of universal time. -/
def isUniversalName (token : Text) : Bool :=
  token == "UTC".toList || token == "GMT".toList || token == ['Z'] || token == ['z']

/-- Could the token be the name of a time zone? -/
def isZoneLike (token : Text) : Bool :=
  decide (token.length ≤ 5) && (token.all Char.isUpper || isUniversalName token)

end Recurrence.DateText
