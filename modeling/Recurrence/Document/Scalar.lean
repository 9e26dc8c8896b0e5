import Recurrence.Document.Basic
import Recurrence.Text.Integer
import Recurrence.Text.Radix
import Recurrence.Calendar.Date

/-! Scalars of a settings document: texts in double or single quotes on one line or on several,
dates and times, and numbers. A reader gives what it read and the text after it. -/

namespace Recurrence.Document

/-- Why a document is not read. -/
inductive Trouble
  | malformed
  | fault (fault : Fault)

abbrev Reading (α : Type) := Except Trouble (α × Text)

/-- Blanks and tabs in front are passed over. -/
def skipBlanks (t : Text) : Text := t.dropWhile fun c => c == ' ' || c == '\t'

def skipBlanksAndLines (t : Text) : Text := t.dropWhile fun c => c == ' ' || c == '\t' || c == '\n'

/-- A control character other than the tab. -/
def isControl (c : Char) : Bool := (decide (c.toNat < 32) && c != '\t') || c.toNat == 127

/-- The character with a number given in hexadecimal digits. -/
def hexChar (width : Nat) (t : Text) : Reading Char :=
  let digits := t.take width
  let value? (c : Char) : Option Nat :=
    if c.isDigit then some (c.toNat - 48)
    else if 'a' ≤ c ∧ c ≤ 'f' then some (c.toNat - 87)
    else if 'A' ≤ c ∧ c ≤ 'F' then some (c.toNat - 55)
    else none
  match digits.mapM value? with
  | none => .error .malformed
  | some ds =>
    let n := ds.foldl (fun n d => n * 16 + d) 0
    if digits.length = width ∧ n.isValidChar then .ok (Char.ofNat n, t.drop width)
    else .error .malformed

/-- What a backslash and the text behind it stand for. On several lines a backslash at the end of
a line stands for nothing, and neither do the blanks and lines that follow. -/
def escape (severalLines : Bool) : Text → Reading Text
  | 'b' :: r => .ok (['\x08'], r)
  | 't' :: r => .ok (['\t'], r)
  | 'n' :: r => .ok (['\n'], r)
  | 'f' :: r => .ok (['\x0c'], r)
  | 'r' :: r => .ok (['\r'], r)
  | '"' :: r => .ok (['"'], r)
  | '\\' :: r => .ok (['\\'], r)
  | 'u' :: r => (hexChar 4 r).map fun p => ([p.1], p.2)
  | 'U' :: r => (hexChar 8 r).map fun p => ([p.1], p.2)
  | c :: r =>
    if !severalLines then .error .malformed
    else if c = '\n' then .ok ([], skipBlanksAndLines r)
    else if c = ' ' ∨ c = '\t' then
      match skipBlanks r with
      | [] => .ok ([], [])
      | '\n' :: r => .ok ([], skipBlanksAndLines r)
      | _ => .error .malformed
    else .error .malformed
  | [] => .error .malformed

/-- The rest of a text in double quotes; every step reads a character, so `fuel` characters
suffice. -/
def doubleQuoted (severalLines : Bool) : Nat → (read : Text) → Text → Reading Text
  | 0, _, _ => .error .malformed
  | _ + 1, _, [] => .error .malformed
  | fuel + 1, read, '\\' :: r =>
    match escape severalLines r with
    | .ok (cs, r) => doubleQuoted severalLines fuel (cs.reverse ++ read) r
    | .error e => .error e
  | fuel + 1, read, '"' :: r =>
    if !severalLines then .ok (read.reverse, r)
    else
      match r with
      | '"' :: '"' :: r => .ok (read.reverse, r)
      | _ => doubleQuoted severalLines fuel ('"' :: read) r
  | fuel + 1, read, c :: r =>
    if isControl c && !(severalLines && c == '\n') then .error .malformed
    else doubleQuoted severalLines fuel (c :: read) r

/-- The rest of a text in single quotes on one line. -/
def singleQuoted : (read : Text) → Text → Reading Text
  | _, [] => .error .malformed
  | read, c :: r =>
    if c = '\'' then .ok (read.reverse, r)
    else if isControl c then .error .malformed
    else singleQuoted (c :: read) r

/-- The rest of a text in three single quotes. -/
def tripleSingleQuoted : (read : Text) → Text → Reading Text
  | read, '\'' :: '\'' :: '\'' :: r => .ok (read.reverse, r)
  | _, [] => .error .malformed
  | read, c :: r =>
    if isControl c && c != '\n' then .error .malformed else tripleSingleQuoted (c :: read) r

/-- Up to two more quotes behind the closing three belong to the text. -/
def moreQuotes (quote : Char) (read : Text × Text) : Text × Text :=
  match read.2 with
  | a :: b :: r =>
    if a = quote ∧ b = quote then (read.1 ++ [quote, quote], r)
    else if a = quote then (read.1 ++ [quote], b :: r)
    else read
  | [a] => if a = quote then (read.1 ++ [quote], []) else read
  | [] => read

/-- A line end right behind the opening three quotes does not count. -/
def skipFirstLineEnd : Text → Text
  | '\n' :: r => r
  | t => t

/-- A text in quotes, whose first quote has been seen. -/
def quotedText : Text → Reading Text
  | '"' :: '"' :: '"' :: r =>
    (doubleQuoted true (r.length + 1) [] (skipFirstLineEnd r)).map (moreQuotes '"')
  | '\'' :: '\'' :: '\'' :: r => (tripleSingleQuoted [] (skipFirstLineEnd r)).map (moreQuotes '\'')
  | '"' :: r => doubleQuoted false (r.length + 1) [] r
  | '\'' :: r => singleQuoted [] r
  | _ => .error .malformed

/-! Dates and times. -/

/-- So many decimal digits in front, as a number. -/
def digits? (width : Nat) (t : Text) : Option (Nat × Text) :=
  let ds := t.take width
  if ds.length = width ∧ ds.all Char.isDigit then
    some (ds.foldl (fun n c => n * 10 + (c.toNat - 48)) 0, t.drop width)
  else none

/-- Two digits of at most `last`. -/
def twoDigits? (least last : Nat) (t : Text) : Option (Nat × Text) :=
  (digits? 2 t).filter fun p => decide (least ≤ p.1) && decide (p.1 ≤ last)

/-- Hours, minutes and seconds, and behind a full stop a fraction of any length. -/
def clockTime? (t : Text) : Option Text := do
  let (_, t) ← twoDigits? 0 23 t
  let t ← Text.after? [':'] t
  let (_, t) ← twoDigits? 0 59 t
  let t ← Text.after? [':'] t
  let (_, t) ← twoDigits? 0 59 t
  match t with
  | '.' :: c :: r => if c.isDigit then some (r.dropWhile Char.isDigit) else some t
  | _ => some t

/-- An offset behind a time, if there is one. -/
def zoneOffset (t : Text) : Text :=
  match t with
  | 'Z' :: r => r
  | 'z' :: r => r
  | c :: r =>
    if c = '+' ∨ c = '-' then
      let rest : Option Text := do
        let (_, r) ← twoDigits? 0 23 r
        let r ← Text.after? [':'] r
        let (_, r) ← twoDigits? 0 59 r
        some r
      rest.getD t
    else t
  | [] => []

/-- Year, month and day, which need not be a day of the calendar. -/
def calendarDate? (t : Text) : Option ((Nat × Nat × Nat) × Text) := do
  let (y, t) ← digits? 4 t
  let t ← Text.after? ['-'] t
  let (m, t) ← twoDigits? 1 12 t
  let t ← Text.after? ['-'] t
  let (d, t) ← twoDigits? 1 31 t
  some ((y, m, d), t)

/-- The text behind a date, with or without a time. -/
def afterDate (t : Text) : Text :=
  match t with
  | c :: r =>
    if c = 'T' ∨ c = 't' ∨ c = ' ' then
      match clockTime? r with
      | some r => zoneOffset r
      | none => t
    else t
  | [] => []

/-! Numbers. -/

/-- Digits with single underscores between them; the first digit has been read. -/
def moreDigits (isDigit : Char → Bool) : Text → Text × Text
  | '_' :: c :: r =>
    if isDigit c then
      let (ds, rest) := moreDigits isDigit r
      (c :: ds, rest)
    else ([], '_' :: c :: r)
  | c :: r =>
    if isDigit c then
      let (ds, rest) := moreDigits isDigit r
      (c :: ds, rest)
    else ([], c :: r)
  | [] => ([], [])

/-- Digits with single underscores between them, at least one. -/
def digitRun? (isDigit : Char → Bool) : Text → Option (Text × Text)
  | c :: r =>
    if isDigit c then
      let (ds, rest) := moreDigits isDigit r
      some (c :: ds, rest)
    else none
  | [] => none

/-- A whole number with the sign of another base. -/
def basedNumber? : Text → Option (Nat × Text)
  | '0' :: 'x' :: r => (digitRun? isHexDigit r).map fun p => (digitsTo 16 p.1, p.2)
  | '0' :: 'b' :: r => (digitRun? isBinaryDigit r).map fun p => (digitsTo 2 p.1, p.2)
  | '0' :: 'o' :: r => (digitRun? isOctalDigit r).map fun p => (digitsTo 8 p.1, p.2)
  | _ => none

/-- The whole part of a decimal number: a zero, or digits that do not begin with one. -/
def wholePart? : Text → Option (Text × Text)
  | '0' :: r => some (['0'], r)
  | t => digitRun? Char.isDigit t

/-- The digits of the fraction, if there is one. -/
def fractionPart (t : Text) : Text × Text :=
  match t with
  | '.' :: r => (digitRun? Char.isDigit r).getD ([], t)
  | _ => ([], t)

/-- The exponent of ten, if there is one. -/
def exponentPart (t : Text) : Option Int × Text :=
  match t with
  | c :: r =>
    if c = 'e' ∨ c = 'E' then
      let (negative, body) := Integer.signed r
      match digitRun? Char.isDigit body with
      | some (ds, rest) =>
        (some (if negative then -(digitsTo 10 ds : Int) else (digitsTo 10 ds : Int)), rest)
      | none => (none, t)
    else (none, t)
  | [] => (none, [])

/-- A decimal number; without a fraction and an exponent it is an integer. -/
def decimalNumber? (t : Text) : Option (Except Trouble Value × Text) :=
  let (negative, body) := Integer.signed t
  match wholePart? body with
  | none => none
  | some (whole, rest) =>
    let (fraction, rest) := fractionPart rest
    let (exponent, rest) := exponentPart rest
    let digits := digitsTo 10 (whole ++ fraction)
    let value :=
      if fraction.isEmpty && exponent.isNone then
        if digitLimit < whole.length then .error (.fault (.tooManyDigits whole.length))
        else .ok (.integer (if negative then -(digits : Int) else (digits : Int)))
      else .ok (.float (FloatValue.nearest negative digits (exponent.getD 0 - fraction.length)))
    some (value, rest)

/-- Numbers that are not finite. -/
def specialNumber? (t : Text) : Option (FloatValue × Text) :=
  let (_, body) := Integer.signed t
  match Text.after? "inf".toList body, Text.after? "nan".toList body with
  | some r, _ => some (.infinite, r)
  | none, some r => some (.notANumber, r)
  | none, none => none

/-- A date, a time or a number. -/
def number (t : Text) : Reading Value :=
  match calendarDate? t with
  | some ((y, m, d), rest) =>
    if (Date.of? y m d).isSome then .ok (.time, afterDate rest) else .error .malformed
  | none =>
    match clockTime? t with
    | some rest => .ok (.time, rest)
    | none =>
      match basedNumber? t with
      | some (n, rest) => .ok (.integer n, rest)
      | none =>
        match decimalNumber? t with
        | some (.ok value, rest) => .ok (value, rest)
        | some (.error e, _) => .error e
        | none =>
          match specialNumber? t with
          | some (value, rest) => .ok (.float value, rest)
          | none => .error .malformed

end Recurrence.Document
