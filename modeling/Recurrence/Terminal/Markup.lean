import Recurrence.Terminal.Action.Parameters
import Recurrence.Terminal.Style
import Recurrence.Terminal.Symbol

/-! Markup: names of styles in square brackets open a style, and with a slash in front close it. A
backslash before a bracket takes its meaning away. Here only the text is wanted, so the styles are
read and dropped; but a style that is closed must have been opened. Names between colons stand for
symbols. -/

namespace Recurrence.Terminal

/-- The name between two colons; one of two forms of the symbol may be asked for behind a hyphen. -/
def symbolAt? (name : Text) : Option Text :=
  let form? := fun (ending : String) (form : Char) =>
    if ending.toList.isSuffixOf name then
      some ((symbol? (name.take (name.length - ending.length))).map (· ++ [form]))
    else none
  ((form? "-emoji" '\uFE0F').or (form? "-text" '\uFE0E')).getD (symbol? name)

/-- The characters up to the next colon, if no blank comes before it. -/
def nameBeforeColon? : Text → Option Text
  | [] => none
  | c :: r =>
    if c = ':' then some []
    else if isBlank c then none
    else (nameBeforeColon? r).map (c :: ·)

/-- Puts symbols for their names, after passing over some characters. -/
def withSymbolsFrom : (skip : Nat) → Text → Text
  | _, [] => []
  | skip + 1, _ :: r => withSymbolsFrom skip r
  | 0, c :: r =>
    match (if c = ':' then nameBeforeColon? r else none) with
    | none => c :: withSymbolsFrom 0 r
    | some name =>
      (symbolAt? name).getD (':' :: name ++ [':']) ++ withSymbolsFrom (name.length + 1) r

def withSymbols (t : Text) : Text := withSymbolsFrom 0 t

inductive MarkupPiece
  | text (text : Text)
  /-- What stands between the brackets, and the place of the first. -/
  | tag (body : Text) (position : Nat)
  deriving DecidableEq

/-- May a tag begin with this character? -/
def beginsTag (c : Char) : Bool :=
  (decide ('a' ≤ c) && decide (c ≤ 'z')) || ['#', '/', '@'].contains c

/-- The characters up to the closing bracket, if no other bracket opens before it. -/
def beforeBracket? : Text → Option Text
  | [] => none
  | c :: r =>
    if c = ']' then some []
    else if c = '[' then none
    else (beforeBracket? r).map (c :: ·)

/-- The body of a tag whose opening bracket has been read. -/
def tagBody? (t : Text) : Option Text := if t.head?.any beginsTag then beforeBracket? t else none

/-- The pieces of marked text. Before the place reached stand plain text, held backwards, and
backslashes that may belong to a tag; the characters of a tag are passed over. -/
def piecesFrom : (position skip slashes : Nat) → (plain : Text) → Text → List MarkupPiece
  | _, _, slashes, plain, [] => [.text (plain.reverse ++ List.replicate slashes '\\')]
  | position, skip + 1, _, plain, _ :: r => piecesFrom (position + 1) skip 0 plain r
  | position, 0, slashes, plain, c :: r =>
    if c = '\\' then piecesFrom (position + 1) 0 (slashes + 1) plain r
    else
      match (if c = '[' then tagBody? r else none) with
      | none =>
        piecesFrom (position + 1) 0 0 (c :: List.replicate slashes '\\' ++ plain) r
      | some body =>
        .text plain.reverse :: .text (List.replicate (slashes / 2) '\\')
          :: (if slashes % 2 = 1 then .text ('[' :: body ++ [']']) else .tag body position)
          :: piecesFrom (position + 1) (body.length + 1) 0 [] r

def pieces (t : Text) : List MarkupPiece := piecesFrom 0 0 0 [] t

/-- The style or action that a tag names; what stands behind an equals sign is not part of it. -/
def tagName (body : Text) : Text := body.takeWhile (· != '=')

/-- What stands behind the equals sign. -/
def tagParameters (body : Text) : Text := body.drop ((tagName body).length + 1)

/-- A tag that is open. -/
structure OpenTag where
  name : Text
  parameters : Text

/-- A tag that ties an action to the text it encloses must hand over a value, if it hands over
anything. -/
def OpenTag.close (tag : OpenTag) : Except Fault Unit :=
  if tag.name.head? = some '@' && !tag.parameters.isEmpty then checkParameters tag.parameters
  else .ok ()

/-- The text of the pieces, with the tags that are open, the latest first. -/
def shownFrom : (opened : List OpenTag) → List MarkupPiece → Except Fault Text
  | _, [] => .ok []
  | opened, .text t :: rest =>
    (shownFrom opened rest).map (withSymbols (Text.replace ['\\', '['] ['['] t) ++ ·)
  | opened, .tag body position :: rest =>
    match tagName body with
    | '/' :: name =>
      if (Text.strip name).isEmpty then
        match opened with
        | [] => .error (.closingTagWithNothingOpen position)
        | tag :: others => tag.close.bind fun _ => shownFrom others rest
      else
        (normalName (Text.strip name)).bind fun name =>
          match opened.find? (·.name == name) with
          | some tag =>
            tag.close.bind fun _ => shownFrom (opened.eraseP (·.name == name)) rest
          | none => .error (.closingTagWithoutOpening (body.drop 1) position)
    | name =>
      (normalName name).bind fun name =>
        shownFrom (⟨name, tagParameters body⟩ :: opened) rest

/-- Looks up the style of a tag that opens one. There the parameters count as words of its name. -/
def checkStyle : MarkupPiece → Except Fault Unit
  | .text _ => .ok ()
  | .tag body _ =>
    if body.head?.any ['/', '@'].contains then .ok ()
    else
      (normalName (tagName body)).bind fun name =>
        (Style.named? (name ++ ' ' :: tagParameters body)).map fun _ => ()

/-- The text that marked text shows. All tags are matched before any style is looked up. -/
def shown (t : Text) : Except Fault Text := do
  let text ← shownFrom [] (pieces t)
  (pieces t).forM checkStyle
  return text

end Recurrence.Terminal
