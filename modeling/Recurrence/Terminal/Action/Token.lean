import Recurrence.Terminal.Action.Escape
import Recurrence.Text.Integer
import Recurrence.Text.Name

/-! The tokens of an expression: words, numerals, quoted texts, and marks of up to three
characters. Brackets are matched here. What is wrong with a token is found before anything is read
from the tokens; but a bracket that nothing closes, and a backslash that continues no line, go
unnoticed until the reader comes to them. -/

namespace Recurrence.Terminal

inductive Token
  | word (word : Text)
  | number (imaginary : Bool) (problem : Option ExpressionProblem)
  | quoted (kind : QuoteKind) (problem : Option ExpressionProblem)
  | mark (mark : Text)
  | lineEnd
  | finish
  /-- Nothing can be read from here on. -/
  | blocked (problem : ExpressionProblem)
  deriving DecidableEq

/-- A token with the number of brackets that are open behind it. -/
structure PlacedToken where
  token : Token
  depth : Nat

/-- The tokens up to the first fault among them. -/
structure Tokens where
  placed : List PlacedToken
  problem : Option ExpressionProblem

/-! ### Numerals -/

/-- What stands behind digits with single underscores between them; an error tells what stands
where a digit is missing. -/
def afterDigits (isDigit : Char → Bool) : Text → Except Text Text
  | '_' :: c :: r => if isDigit c then afterDigits isDigit r else .error (c :: r)
  | ['_'] => .error []
  | c :: r => if isDigit c then afterDigits isDigit r else .ok (c :: r)
  | [] => .ok []

def isWordPart (c : Char) : Bool := c.isAlphanum || c == '_' || decide (128 ≤ c.toNat)

/-- Some words may follow a numeral without a blank; what begins with one of three short ones may
follow as well. -/
def wordMayFollow (t : Text) : Bool :=
  ["if", "in", "is"].any (·.toList.isPrefixOf t)
    || ["and", "else", "for", "not", "or"].any (·.toList == t.takeWhile isWordPart)

/-- Nothing that could be part of a name may follow a numeral, those words aside. -/
def endOfNumeral (kind : String) (t : Text) : Except ExpressionProblem Text :=
  let joined := t.head?.any fun c => c.isAlphanum || c == '_'
  if joined && !wordMayFollow t then .error (.badNumeral kind.toList) else .ok t

/-- What stands behind a numeral of another base, whose sign has been read. -/
def afterBased (kind : String) (isDigit : Char → Bool) (t : Text) :
    Except ExpressionProblem Text :=
  let wrong (rest : Text) : ExpressionProblem :=
    match rest.head?.filter Char.isDigit with
    | some digit => .badDigit digit kind.toList
    | none => .badNumeral kind.toList
  let digits := if t.head? = some '_' then t.drop 1 else t
  if digits.head?.any isDigit then
    match afterDigits isDigit digits with
    | .error rest => .error (wrong rest)
    | .ok rest =>
      if rest.head?.any Char.isDigit then .error (wrong rest) else endOfNumeral kind rest
  else .error (wrong digits)

/-- Whether a numeral is imaginary, and what follows it. -/
def afterUnit (t : Text) : Except ExpressionProblem (Bool × Text) :=
  if t.head?.any (['j', 'J'].contains ·) then
    (endOfNumeral "imaginary" (t.drop 1)).map (true, ·)
  else (endOfNumeral "decimal" t).map (false, ·)

def afterExponent (t : Text) : Except ExpressionProblem (Bool × Text) :=
  if t.head?.any (['e', 'E'].contains ·) then
    let isSigned := (t.drop 1).head?.any (['+', '-'].contains ·)
    let digits := t.drop (if isSigned then 2 else 1)
    if digits.head?.any Char.isDigit then
      match afterDigits Char.isDigit digits with
      | .error _ => .error (.badNumeral "decimal".toList)
      | .ok rest => afterUnit rest
    else if isSigned then .error (.badNumeral "decimal".toList)
    else (endOfNumeral "decimal" t).map (false, ·)
  else afterUnit t

def afterFraction (t : Text) : Except ExpressionProblem (Bool × Text) :=
  if t.head?.any Char.isDigit then
    match afterDigits Char.isDigit t with
    | .error _ => .error (.badNumeral "decimal".toList)
    | .ok rest => afterExponent rest
  else afterExponent t

/-- A whole number, given its digits, may begin with a zero only if it is zero. -/
def wholeNumber (digits rest : Text) : Except ExpressionProblem (Token × Text) :=
  if digits.head? = some '0' && digits.any (· != '0') then .error .leadingZeros
  else
    let problem :=
      if digits.head? != some '0' && digitLimit < digits.length then
        some (.numeralTooLong digits.length)
      else none
    (endOfNumeral "decimal" rest).map (.number false problem, ·)

def basedNumeral (kind : String) (isDigit : Char → Bool) (t : Text) :
    Except ExpressionProblem (Token × Text) :=
  (afterBased kind isDigit t).map (.number false none, ·)

/-- The token of a numeral with a fraction, an exponent or a unit. -/
def fractional (read : Except ExpressionProblem (Bool × Text)) :
    Except ExpressionProblem (Token × Text) :=
  read.map fun p => (.number p.1 none, p.2)

/-- The numeral that a text begins with, and what follows it. -/
def numeral (t : Text) : Except ExpressionProblem (Token × Text) :=
  match t with
  | '.' :: r => fractional (afterFraction r)
  | '0' :: 'x' :: r | '0' :: 'X' :: r => basedNumeral "hexadecimal" isHexDigit r
  | '0' :: 'o' :: r | '0' :: 'O' :: r => basedNumeral "octal" isOctalDigit r
  | '0' :: 'b' :: r | '0' :: 'B' :: r => basedNumeral "binary" isBinaryDigit r
  | _ =>
    match afterDigits Char.isDigit t with
    | .error _ => .error (.badNumeral "decimal".toList)
    | .ok rest =>
      if rest.head?.any (· == '.') then fractional (afterFraction (rest.drop 1))
      else if rest.head?.any (['e', 'E', 'j', 'J'].contains ·) then
        fractional (afterExponent rest)
      else wholeNumber ((t.take (t.length - rest.length)).filter (· != '_')) rest

/-! ### Quoted texts -/

/-- The kind of quoted text that letters in front of the quotes ask for. -/
def QuoteKind.ofLetters? (letters : Text) : Option QuoteKind :=
  match letters.map Char.toLower with
  | [] | ['u'] => some ⟨false, false, false⟩
  | ['r'] => some ⟨false, true, false⟩
  | ['b'] => some ⟨true, false, false⟩
  | ['b', 'r'] | ['r', 'b'] => some ⟨true, true, false⟩
  | ['f'] => some ⟨false, false, true⟩
  | ['f', 'r'] | ['r', 'f'] => some ⟨false, true, true⟩
  | _ => none

/-- The text up to a quote and the text behind it. A line end that no backslash takes away comes
too early, and an error tells on which line that happens. -/
def shortQuoted (quote : Char) : (line : Nat) → Text → Except Nat (Text × Text)
  | line, [] => .error line
  | line, '\\' :: c :: r =>
    (shortQuoted quote (if c = '\n' then line + 1 else line) r).map fun p => ('\\' :: c :: p.1, p.2)
  | line, c :: r =>
    if c = quote then .ok ([], r)
    else if c = '\n' then .error line
    else (shortQuoted quote line r).map fun p => (c :: p.1, p.2)

/-- The text up to three quotes, and the text behind them. -/
def longQuoted? (quote : Char) : Text → Option (Text × Text)
  | [] => none
  | '\\' :: c :: r => (longQuoted? quote r).map fun p => ('\\' :: c :: p.1, p.2)
  | c :: r =>
    if [quote, quote, quote].isPrefixOf (c :: r) then some ([], r.drop 2)
    else (longQuoted? quote r).map fun p => (c :: p.1, p.2)

/-- The quoted text behind its first quote, and what follows it. -/
def quotedText (kind : QuoteKind) (quote : Char) (line : Nat) (t : Text) :
    Except ExpressionProblem (Token × Text) :=
  if [quote, quote].isPrefixOf t then
    match longQuoted? quote (t.drop 2) with
    | none => .error (.unclosedLongText (line + t.count '\n'))
    | some (inside, rest) => .ok (.quoted kind (quotedProblem? kind inside), rest)
  else
    match shortQuoted quote line t with
    | .error last => .error (.unclosedText last)
    | .ok (inside, rest) => .ok (.quoted kind (quotedProblem? kind inside), rest)

/-! ### Words and marks -/

/-- The word that a text begins with, or the quoted text if the word only says its kind. -/
def wordOrQuoted (line : Nat) (t : Text) : Except ExpressionProblem (Token × Text) :=
  let word := t.takeWhile isWordPart
  let rest := t.drop word.length
  match rest.head?.filter (['\'', '"'].contains ·), QuoteKind.ofLetters? word with
  | some quote, some kind => quotedText kind quote line (rest.drop 1)
  | _, _ =>
    match (if word.any fun c => 128 ≤ c.toNat then notInName? word else none) with
    | some c => .error (.badCharacter c)
    | none => .ok (.word word, rest)

/-- Marks of three and of two characters; every other character is a mark of its own. -/
def longMarks : List String :=
  ["**=", "//=", "<<=", ">>=", "...", "!=", "%=", "&=", "**", "*=", "+=", "-=", "->", "//", "/=",
   ":=", "<<", "<=", "<>", "==", ">=", ">>", "@=", "^=", "|="]

/-- The first mark of a text that is not empty. -/
def markOf (t : Text) : Text :=
  ((longMarks.map String.toList).find? (·.isPrefixOf t)).getD (t.take 1)

/-- The bracket that a closing bracket asks for. -/
def opening? (closing : Char) : Option Char :=
  if closing = ')' then some '('
  else if closing = ']' then some '['
  else if closing = '\x7d' then some '\x7b'
  else none

/-- An open bracket and its line. -/
abbrev OpenBracket := Char × Nat

/-- The brackets that are open behind a mark on a line. -/
def bracketsAfter (line : Nat) (opened : List OpenBracket) (mark : Text) :
    Except ExpressionProblem (List OpenBracket) :=
  match mark with
  | [c] =>
    if ['(', '[', '\x7b'].contains c then
      if opened.length < 200 then .ok ((c, line) :: opened) else .error .nestedTooDeep
    else
      match opening? c with
      | none => .ok opened
      | some wanted =>
        match opened with
        | [] => .error (.unmatched c)
        | (found, itsLine) :: rest =>
          if found = wanted then .ok rest
          else .error (.mismatched c found (if itsLine = line then none else some itsLine))
  | _ => .ok opened

/-- One token at the beginning of a text, with the brackets open behind it and what follows. -/
def oneToken (line : Nat) (opened : List OpenBracket) (t : Text) :
    Except ExpressionProblem (Token × List OpenBracket × Text) :=
  let keep (read : Except ExpressionProblem (Token × Text)) :=
    read.map fun p => (p.1, opened, p.2)
  let c := t.head?.getD ' '
  if c.isDigit || (c == '.' && (t.drop 1).head?.any Char.isDigit) then keep (numeral t)
  else if isWordPart c || c == '\'' || c == '"' then keep (wordOrQuoted line t)
  else if c.toNat < 32 || c.toNat = 127 then .error (.badCharacter c)
  else
    let mark := markOf t
    (bracketsAfter line opened mark).map fun others => (.mark mark, others, t.drop mark.length)

def isGap (c : Char) : Bool := c == ' ' || c == '\t' || c == '\x0c'

/-- The tokens of a text, given the brackets open in front of it, its line, and whether nothing
stands before it on the line. `fuel` bounds the characters. Line ends count only outside brackets
and behind a token, and there the next line must not be indented. -/
def tokensFrom : (fuel : Nat) → List OpenBracket → (line : Nat) → (fresh : Bool) → Text → Tokens
  | 0, _, _, _, _ => ⟨[], none⟩
  | fuel + 1, opened, line, fresh, t =>
    let before (p : PlacedToken) (ts : Tokens) : Tokens := { ts with placed := p :: ts.placed }
    let last (token : Token) : Tokens := ⟨[⟨token, opened.length⟩], none⟩
    match t.dropWhile isGap with
    | [] =>
      match opened with
      | [] => last .finish
      | (c, _) :: _ => last (.blocked (.neverClosed c))
    | c :: r =>
      if c = '#' then tokensFrom fuel opened line fresh (r.dropWhile (· != '\n'))
      else if c = '\n' then
        if fresh || !opened.isEmpty then tokensFrom fuel opened (line + 1) fresh r
        else before ⟨.lineEnd, 0⟩ (tokensFrom fuel opened (line + 1) true r)
      else if c = '\\' then
        if r.head? = some '\n' then tokensFrom fuel opened (line + 1) fresh (r.drop 1)
        else last (.blocked .strayContinuation)
      else if fresh && opened.isEmpty && t.head?.any isGap then last (.blocked .indented)
      else
        match oneToken line opened (c :: r) with
        | .error problem => ⟨[⟨.blocked problem, opened.length⟩], some problem⟩
        | .ok (token, others, rest) =>
          before ⟨token, others.length⟩
            (tokensFrom fuel others
              (line + ((c :: r).take (r.length + 1 - rest.length)).count '\n') false rest)

/-- Every kind of line end counts as one. -/
def withLineFeeds : Text → Text
  | '\r' :: '\n' :: r => '\n' :: withLineFeeds r
  | '\r' :: r => '\n' :: withLineFeeds r
  | c :: r => c :: withLineFeeds r
  | [] => []

def tokens (t : Text) : Tokens := tokensFrom (t.length + 1) [] 1 true (withLineFeeds t)

end Recurrence.Terminal
