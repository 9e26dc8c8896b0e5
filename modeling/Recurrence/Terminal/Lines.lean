import Recurrence.Terminal.Width
import Recurrence.Text.Blank

/-! Text as a terminal of some width shows it: tabs are filled up to the next column of eight, and
lines are broken between words, or within a word that is wider than the terminal. -/

namespace Recurrence.Terminal

/-- Bell, backspace, vertical tab, form feed and carriage return are not shown. -/
def isHidden (c : Char) : Bool := [7, 8, 11, 12, 13].contains c.toNat

/-- Fills tabs up with spaces, from a number of cells on. -/
def expandTabs : (cells : Nat) → Text → Text
  | _, [] => []
  | cells, c :: r =>
    if c = '\t' then
      List.replicate (8 - cells % 8) ' ' ++ expandTabs (cells + (8 - cells % 8)) r
    else c :: expandTabs (cells + cellWidth c) r

/-- Splits before each character that is not blank behind one that is. -/
def blankRuns : Text → List Text
  | [] => []
  | c :: r =>
    match blankRuns r with
    | [] => [[c]]
    | w :: ws =>
      if isBlank c && !(w.head?.any isBlank) then [c] :: w :: ws else (c :: w) :: ws

/-- The words of a text, each with the blanks behind it; blanks in front go with the first. -/
def words (t : Text) : List Text :=
  match blankRuns t with
  | a :: b :: rest => if a.all isBlank then (a ++ b) :: rest else a :: b :: rest
  | runs => runs

/-- Cuts a text into pieces no wider than a width, with some cells of the first used already. -/
def chop (width : Nat) : (used : Nat) → Text → List Text
  | _, [] => [[]]
  | used, c :: r =>
    let fits := decide (used + cellWidth c ≤ width)
    let (piece, more) :=
      match chop width (if fits then used + cellWidth c else cellWidth c) r with
      | [] => ([], [])
      | p :: ps => (p, ps)
    if fits then (c :: piece) :: more else [] :: (c :: piece) :: more

/-- Puts words on a line of which some cells are used, and on the lines below it. The blanks behind
a word may stand past the edge. -/
def fill (width : Nat) : (line : Text) → (used : Nat) → List Text → List Text
  | line, _, [] => [line]
  | line, used, word :: rest =>
    let size := word.stripRight.cells
    if used + size ≤ width then fill width (line ++ word) (used + word.cells) rest
    else if size ≤ width then line :: fill width word word.cells rest
    else
      let pieces := chop width 0 word
      let last := pieces.getLast?.getD []
      (if line.isEmpty then [] else [line]) ++ pieces.dropLast ++ fill width last last.cells rest

/-- A line without the blanks at its end that are beyond a number of characters. -/
def withoutOverhang (width : Nat) (line : Text) : Text :=
  let blanks := (line.reverse.takeWhile isBlank).length
  line.take (line.length - min blanks (line.length - width))

/-- A start of a text that is as wide as asked for, looked for by halving between two places, of
which the first is too early and the second too late. A wide character across the edge becomes a
space. Where characters without a width stand at the edge, the halving tells how many are kept. -/
def startOfWidth (width : Nat) (t : Text) : (fuel early late : Nat) → Text
  | 0, _, _ => t
  | fuel + 1, early, late =>
    let place := (early + late) / 2
    let start : Text := t.take (place + 1)
    if start.cells = width then start
    else if start.cells = width + 1 ∧ start.getLast?.any (fun c => cellWidth c == 2) then
      start.dropLast ++ [' ']
    else if width < start.cells then startOfWidth width t fuel early place
    else startOfWidth width t fuel place late

/-- A line no wider than the terminal. -/
def withinEdge (width : Nat) (line : Text) : Text :=
  if line.cells ≤ width then line else startOfWidth width line (line.length + 1) 0 line.length

/-- The lines a text makes on a terminal. -/
def lines (width : Nat) (t : Text) : List Text :=
  ((Text.lines (t.filter fun c => !isHidden c)).flatMap fun line =>
    fill width [] 0 (words (expandTabs 0 line))).map fun line =>
      withinEdge width (withoutOverhang width line)

end Recurrence.Terminal
