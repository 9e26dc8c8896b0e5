import Recurrence.Text.Quoted

/-! What can be wrong with the value that a tag hands to its action: its text is no expression, or
the expression is no plain value. -/

namespace Recurrence.Terminal

/-- What is wrong with an escape in a quoted text. -/
inductive EscapeProblem
  /-- The letter that asks for digits, of which there are too few. -/
  | tooShort (letter : Char)
  | beyondUnicode
  | nameMissing
  deriving DecidableEq

/-- Why a text is no expression. -/
inductive ExpressionProblem
  | outOfPlace
  | indented
  | unclosedText (line : Nat)
  | unclosedLongText (line : Nat)
  | unmatched (closing : Char)
  /-- The line of the opening bracket is told when it is another one. -/
  | mismatched (closing opening : Char) (line : Option Nat)
  | neverClosed (opening : Char)
  | nestedTooDeep
  | strayContinuation
  | badNumeral (kind : Text)
  | badDigit (digit : Char) (kind : Text)
  | leadingZeros
  | numeralTooLong (digits : Nat)
  | badCharacter (c : Char)
  /-- An escape, with the places of its first and last byte. -/
  | badEscape (first last : Nat) (problem : EscapeProblem)
  | badByteEscape (first : Nat)
  | characterAsByte
  | bytesBesideText
  | commaMissing
  | elseMissing
  | comparisonMeant
  | assigned (title : Text)
  | assignedWord (word : Text)
  | namedOn (title : Text)
  | argumentAssigned
  | bracketsMissing (function : Text)
  | starAlone
  | starInBrackets
  | doubleStarInBrackets
  | starAsEntry
  | entryWithoutColon
  | entryWithoutValue
  | placedAfterNamed
  | placedAfterSpread
  | spreadAfterTable
  deriving DecidableEq

/-- Why an expression is no plain value. -/
inductive ValueProblem
  | hasNul
  | notPlain
  | entryWithoutKey
  /-- A value of this kind cannot be a key or stand in a set. -/
  | notAKey (kind : Text)
  deriving DecidableEq

def EscapeProblem.message : EscapeProblem → Text
  | tooShort letter =>
    "truncated \\".toList ++ letter
      :: List.replicate (if letter = 'x' then 2 else if letter = 'u' then 4 else 8) 'X'
      ++ " escape".toList
  | beyondUnicode => "illegal Unicode character".toList
  | nameMissing => "malformed \\N character escape".toList

namespace ExpressionProblem

/-- The sentence that reports a character no expression contains. -/
def characterMessage (c : Char) : Text :=
  let code := 'U' :: '+' :: (Text.padLeft '0' 4 (Nat.toDigits 16 c.toNat)).map Char.toUpper
  if isPrintable c then
    "invalid character '".toList ++ c :: "' (".toList ++ code ++ [')']
  else "invalid non-printable character ".toList ++ code

def message : ExpressionProblem → Text
  | outOfPlace => "invalid syntax".toList
  | indented => "unexpected indent".toList
  | unclosedText line =>
    "unterminated string literal (detected at line ".toList ++ decimal line ++ [')']
  | unclosedLongText line =>
    "unterminated triple-quoted string literal (detected at line ".toList ++ decimal line ++ [')']
  | unmatched closing => "unmatched '".toList ++ [closing, '\'']
  | mismatched closing opening line =>
    "closing parenthesis '".toList ++ closing :: "' does not match opening parenthesis '".toList
      ++ opening :: '\'' :: (line.map fun n => " on line ".toList ++ decimal n).getD []
  | neverClosed opening => '\'' :: opening :: "' was never closed".toList
  | nestedTooDeep => "too many nested parentheses".toList
  | strayContinuation => "unexpected character after line continuation character".toList
  | badNumeral kind => "invalid ".toList ++ kind ++ " literal".toList
  | badDigit digit kind =>
    "invalid digit '".toList ++ digit :: "' in ".toList ++ kind ++ " literal".toList
  | leadingZeros =>
    ("leading zeros in decimal integer literals are not permitted; ".toList
      ++ "use an 0o prefix for octal integers".toList)
  | numeralTooLong digits =>
    "Exceeds the limit (4300 digits) for integer string conversion: value has ".toList
      ++ decimal digits
      ++ " digits; use sys.set_int_max_str_digits() to increase the limit".toList
      ++ " - Consider hexadecimal for huge integer literals to avoid decimal ".toList
      ++ "conversion limits.".toList
  | badCharacter c => characterMessage c
  | badEscape first last problem =>
    "(unicode error) 'unicodeescape' codec can't decode bytes in position ".toList
      ++ decimal first ++ '-' :: decimal last ++ ": ".toList ++ problem.message
  | badByteEscape first =>
    "(value error) invalid \\x escape at position ".toList ++ decimal first
  | characterAsByte => "bytes can only contain ASCII literal characters".toList
  | bytesBesideText => "cannot mix bytes and nonbytes literals".toList
  | commaMissing => "invalid syntax. Perhaps you forgot a comma?".toList
  | elseMissing => "expected 'else' after 'if' expression".toList
  | comparisonMeant => "invalid syntax. Maybe you meant '==' or ':=' instead of '='?".toList
  | assigned title =>
    "cannot assign to ".toList ++ title ++ " here. Maybe you meant '==' instead of '='?".toList
  | assignedWord word => "cannot assign to ".toList ++ word
  | namedOn title => "cannot use assignment expressions with ".toList ++ title
  | argumentAssigned =>
    "expression cannot contain assignment, perhaps you meant \"==\"?".toList
  | bracketsMissing function =>
    "Missing parentheses in call to '".toList ++ function ++ "'. Did you mean ".toList ++ function
      ++ "(...)?".toList
  | starAlone => "Invalid star expression".toList
  | starInBrackets => "cannot use starred expression here".toList
  | doubleStarInBrackets => "cannot use double starred expression here".toList
  | starAsEntry => "cannot use a starred expression in a dictionary value".toList
  | entryWithoutColon => "':' expected after dictionary key".toList
  | entryWithoutValue => "expression expected after dictionary key and ':'".toList
  | placedAfterNamed => "positional argument follows keyword argument".toList
  | placedAfterSpread => "positional argument follows keyword argument unpacking".toList
  | spreadAfterTable =>
    "iterable argument unpacking follows keyword argument unpacking".toList

end ExpressionProblem

def ValueProblem.message : ValueProblem → Text
  | hasNul => "source code string cannot contain null bytes".toList
  | notPlain => "malformed node or string on line 1".toList
  | entryWithoutKey => "malformed node or string: None".toList
  | notAKey kind => "unhashable type: ".toList ++ kind.quoted

end Recurrence.Terminal
