import Recurrence.Terminal.Action.Problem
import Recurrence.Text.Radix

/-! Quoted texts in expressions: what an escape asks for, and the first escape that cannot be read.
Places are counted in the text as it is read, where a character outside the first 128 takes ten
bytes, as an escape with eight digits does. -/

namespace Recurrence.Terminal

/-- Letters in front of the quotes say how the text between them is meant. -/
structure QuoteKind where
  ofBytes : Bool
  /-- A backslash is a character like any other. -/
  plain : Bool
  /-- Parts of the text are computed. -/
  computed : Bool
  deriving DecidableEq

/-- The hexadecimal digits a text begins with. -/
def hexRun (t : Text) : Text := t.takeWhile isHexDigit

/-- The digits that the letter of an escape asks for. -/
def escapeDigits? (letter : Char) : Option Nat :=
  if letter = 'x' then some 2 else if letter = 'u' then some 4 else if letter = 'U' then some 8
  else none

/-- The bytes of a character as it is read. -/
def readWidth (c : Char) : Nat := if c.toNat < 128 then 1 else 10

def readWidths (t : Text) : Nat := Text.total (t.map readWidth)

/-- What is wrong with an escape that begins at a place with a letter, before the rest. -/
def escapeProblem? (place : Nat) (letter : Char) (rest : Text) : Option ExpressionProblem :=
  match escapeDigits? letter with
  | some digits =>
    let found := (hexRun rest).take digits
    if found.length < digits then
      some (.badEscape place (place + 1 + found.length) (.tooShort letter))
    else if 0x10FFFF < digitsTo 16 found then some (.badEscape place (place + 9) .beyondUnicode)
    else none
  | none =>
    if letter = 'N' then
      match rest with
      | '\x7b' :: name =>
        let before := name.takeWhile (· != '\x7d')
        if before.length = name.length then
          some (.badEscape place (place + 2 + readWidths name) .nameMissing)
        else if before.isEmpty then some (.badEscape place (place + 2) .nameMissing)
        else none
      | _ => some (.badEscape place (place + 1) .nameMissing)
    else none

/-- The first escape of a text that cannot be read, from a place on. -/
def textProblem? : (place : Nat) → Text → Option ExpressionProblem
  | _, [] => none
  | place, '\\' :: c :: r =>
    if c.toNat < 128 then (escapeProblem? place c r).or (textProblem? (place + 2) r)
    else textProblem? (place + 6 + readWidth c) r
  | place, c :: r => textProblem? (place + readWidth c) r

/-- The same for bytes, where only two digits are ever asked for. -/
def bytesProblem? : (place : Nat) → Text → Option ExpressionProblem
  | _, [] => none
  | place, '\\' :: c :: r =>
    if c = 'x' && ((hexRun r).length < 2 : Bool) then some (.badByteEscape place) else bytesProblem? (place + 2) r
  | place, _ :: r => bytesProblem? (place + 1) r

/-- What is wrong with the text between quotes. -/
def quotedProblem? (kind : QuoteKind) (t : Text) : Option ExpressionProblem :=
  if kind.ofBytes && t.any fun c => 128 ≤ c.toNat then some .characterAsByte
  else if kind.plain || kind.computed then none
  else if kind.ofBytes then bytesProblem? 0 t
  else textProblem? 0 t

end Recurrence.Terminal
