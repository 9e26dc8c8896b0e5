import Recurrence.Text.Blank
import Recurrence.Text.Case
import Recurrence.Text.Word

/-! Patterns over text. A pattern has, at each place of a text, a list of outcomes in order of
preference; it is found at the first place where that list is not empty, and its first outcome
counts. Letters are compared without regard to case. -/

namespace Recurrence

inductive Pattern
  /-- One character that passes the test. -/
  | char (test : Char → Bool)
  /-- As many characters as pass the test, or fewer. -/
  | zeroOrMore (test : Char → Bool)
  | empty
  | seq (first second : Pattern)
  /-- The first pattern, or else the second. -/
  | alt (first second : Pattern)
  /-- The text that a numbered part of the pattern matched is kept. -/
  | group (index : Nat) (part : Pattern)
  /-- The pattern does not match what follows. -/
  | notAhead (part : Pattern)
  /-- The character before does not pass the test. -/
  | notBehind (test : Char → Bool)
  /-- A word begins or ends here. -/
  | boundary

namespace Pattern

/-- A place in a text: the character before it and the text after it, with the groups matched
on the way here, each as the text from its start on and the text from its end on. -/
structure Place where
  before : Option Char
  rest : Text
  groups : List (Nat × Text × Text) := []

/-- The places after each number of leading characters that pass the test, the most first,
in front of the places given. -/
def spans (test : Char → Bool) (groups : List (Nat × Text × Text)) :
    List Place → Option Char → Text → List Place
  | places, before, [] => ⟨before, [], groups⟩ :: places
  | places, before, c :: rest =>
    if test c then spans test groups (⟨before, c :: rest, groups⟩ :: places) (some c) rest
    else ⟨before, c :: rest, groups⟩ :: places

/-- The places a match may end at, the preferred first. -/
def outcomes : Pattern → Place → List Place
  | char test, p =>
    match p.rest with
    | c :: rest => if test c then [{ p with before := some c, rest }] else []
    | [] => []
  | zeroOrMore test, p => spans test p.groups [] p.before p.rest
  | empty, p => [p]
  | seq first second, p => (first.outcomes p).flatMap second.outcomes
  | alt first second, p => first.outcomes p ++ second.outcomes p
  | group index part, p =>
    (part.outcomes p).map fun q => { q with groups := (index, p.rest, q.rest) :: q.groups }
  | notAhead part, p => if (part.outcomes p).isEmpty then [p] else []
  | notBehind test, p => if p.before.any test then [] else [p]
  | boundary, p => if p.before.any isWordChar != p.rest.head?.any isWordChar then [p] else []

/-- The end of the match at the first place, from this one on, where the pattern matches. -/
def search (pattern : Pattern) : Option Char → Text → Option Place
  | before, [] => (pattern.outcomes ⟨before, [], []⟩).head?
  | before, c :: rest =>
    match (pattern.outcomes ⟨before, c :: rest, []⟩).head? with
    | some place => some place
    | none => search pattern (some c) rest

/-- The end of the first match in a text. -/
def find? (pattern : Pattern) (t : Text) : Option Place := pattern.search none t

/-- The text of a group, if the match went through it. -/
def Place.group? (p : Place) (index : Nat) : Option Text :=
  (p.groups.find? fun g => g.1 == index).map fun g => g.2.1.take (g.2.1.length - g.2.2.length)

/-- The same letter in either case; the long s is an s and the dotless i an i. -/
def sameLetter (letter c : Char) : Bool :=
  foldChar c == letter || (letter == 's' && c == 'ſ') || (letter == 'i' && c == 'ı')

/-- The letters of a word in either case. -/
def literal (t : Text) : Pattern := t.foldr (fun c p => seq (char (sameLetter c)) p) empty

def sequence (parts : List Pattern) : Pattern := parts.foldr seq empty

/-- One of several patterns, tried in order. -/
def choice : List Pattern → Pattern
  | [] => notAhead empty
  | [p] => p
  | p :: ps => alt p (choice ps)

def optional (p : Pattern) : Pattern := alt p empty

/-- At least one character that passes the test. -/
def oneOrMore (test : Char → Bool) : Pattern := seq (char test) (zeroOrMore test)

def oneOf (t : Text) : Pattern := char fun c => t.contains c

end Pattern

end Recurrence
