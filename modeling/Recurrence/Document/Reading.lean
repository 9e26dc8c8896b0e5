import Recurrence.Document.Scalar

/-! Settings documents: lines `name = value`, headings of tables and of lists of tables, and
comments. A name is written once; a table is opened once; what a value in brackets or braces
holds is not changed afterwards. -/

namespace Recurrence.Document

/-- A row of names that leads to a table or a value. -/
abbrev Key := List Text

/-- What may no longer be done to the names of a document. -/
structure Marks where
  /-- Nothing at or below these keys is changed. -/
  frozen : List Key := []
  /-- No heading opens these tables. -/
  opened : List Key := []
  /-- Tables made by dotted names since the last heading; the next heading marks them opened. -/
  pending : List Key := []

namespace Marks

def isFrozen (m : Marks) (key : Key) : Bool := m.frozen.any fun f => f.isPrefixOf key

def isOpened (m : Marks) (key : Key) : Bool := m.opened.contains key

def settle (m : Marks) : Marks := { m with opened := m.pending ++ m.opened, pending := [] }

def open? (m : Marks) (key : Key) : Option Marks :=
  if m.isOpened key || m.isFrozen key then none else some { m with opened := key :: m.opened }

/-- A new table in a list is free again. -/
def openInList? (m : Marks) (key : Key) : Option Marks :=
  if m.isFrozen key then none
  else
    some { m with
      frozen := m.frozen.filter fun f => !key.isPrefixOf f
      opened := key :: m.opened.filter fun f => !key.isPrefixOf f }

def freeze (m : Marks) (key : Key) : Marks := { m with frozen := key :: m.frozen }

end Marks

def isBareKeyChar (c : Char) : Bool := c.isAlphanum || c == '-' || c == '_'

/-- One name: bare, or in quotes on one line. -/
def keyPart (t : Text) : Reading Text :=
  match t with
  | '"' :: r => doubleQuoted false (r.length + 1) [] r
  | '\'' :: r => singleQuoted [] r
  | c :: _ =>
    if isBareKeyChar c then .ok (t.takeWhile isBareKeyChar, t.dropWhile isBareKeyChar)
    else .error .malformed
  | [] => .error .malformed

/-- Names with full stops between them, and the blanks behind them; `fuel` names suffice. -/
def keyWithin : Nat → Text → Reading Key
  | 0, _ => .error .malformed
  | fuel + 1, t =>
    match keyPart t with
    | .error e => .error e
    | .ok (name, r) =>
      match skipBlanks r with
      | '.' :: r => (keyWithin fuel (skipBlanks r)).map fun p => (name :: p.1, p.2)
      | r => .ok ([name], r)

def key (t : Text) : Reading Key := keyWithin (t.length + 1) t

/-- A comment up to the end of its line, if one begins here. -/
def comment (t : Text) : Except Trouble Text :=
  match t with
  | '#' :: r =>
    if (r.takeWhile (· != '\n')).any isControl then .error .malformed
    else .ok (r.dropWhile (· != '\n'))
  | _ => .ok t

/-- Blanks, line ends and comments between the items of a list; `fuel` of them suffice. -/
def skipBetweenItems : Nat → Text → Except Trouble Text
  | 0, t => .ok t
  | fuel + 1, t =>
    match comment (skipBlanksAndLines t) with
    | .error e => .error e
    | .ok r => if r.length = t.length then .ok r else skipBetweenItems fuel r

def between (t : Text) : Except Trouble Text := skipBetweenItems (t.length + 1) t

/-- A list or a table written in place, which nothing is added to afterwards. -/
def isClosedValue : Value → Bool
  | .list _ => true
  | .table _ => true
  | _ => false

mutual

/-- A value; every call reads on, so as many calls as twice the characters suffice. -/
def value : Nat → Text → Reading Value
  | 0, _ => .error .malformed
  | fuel + 1, t =>
    match t with
    | '"' :: _ => (quotedText t).map fun p => (.text p.1, p.2)
    | '\'' :: _ => (quotedText t).map fun p => (.text p.1, p.2)
    | '[' :: r =>
      match between r with
      | .error e => .error e
      | .ok (']' :: r) => .ok (.list [], r)
      | .ok r => items fuel [] r
    | '\x7b' :: r =>
      match skipBlanks r with
      | '\x7d' :: r => .ok (.table [], r)
      | r => inlineEntries fuel [] {} r
    | _ =>
      match Text.after? "true".toList t, Text.after? "false".toList t with
      | some r, _ => .ok (.flag true, r)
      | none, some r => .ok (.flag false, r)
      | none, none => number t

/-- The items of a list from one on, with those before it held backwards. -/
def items : Nat → List Value → Text → Reading Value
  | 0, _, _ => .error .malformed
  | fuel + 1, before, t =>
    match value fuel t with
    | .error e => .error e
    | .ok (item, r) =>
      match between r with
      | .error e => .error e
      | .ok (']' :: r) => .ok (.list (item :: before).reverse, r)
      | .ok (',' :: r) =>
        match between r with
        | .error e => .error e
        | .ok (']' :: r) => .ok (.list (item :: before).reverse, r)
        | .ok r => items fuel (item :: before) r
      | .ok _ => .error .malformed

/-- The entries of a table in braces from one on. -/
def inlineEntries : Nat → Table → Marks → Text → Reading Value
  | 0, _, _, _ => .error .malformed
  | fuel + 1, entries, marks, t =>
    match key t with
    | .error e => .error e
    | .ok (names, '=' :: r) =>
      match value fuel (skipBlanks r) with
      | .error e => .error e
      | .ok (v, r) =>
        let add := Table.updateAt? false (Table.add? (names.getLastD []) v) names.dropLast entries
        match (if marks.isFrozen names then none else add), skipBlanks r with
        | some entries, '\x7d' :: r => .ok (.table entries, r)
        | some entries, ',' :: r =>
          inlineEntries fuel entries (if isClosedValue v then marks.freeze names else marks)
            (skipBlanks r)
        | _, _ => .error .malformed
    | .ok _ => .error .malformed

end

/-- A document under way: the tables so far, the marks, and the table of the last heading. -/
structure Draft where
  entries : Table := []
  marks : Marks := {}
  heading : Key := []

namespace Draft

/-- A heading that opens a table. -/
def tableHeading (d : Draft) (t : Text) : Reading Draft :=
  match key (skipBlanks t) with
  | .error e => .error e
  | .ok (names, ']' :: r) =>
    match d.marks.open? names, Table.updateAt? true some names d.entries with
    | some marks, some entries => .ok ({ entries, marks, heading := names }, r)
    | _, _ => .error .malformed
  | .ok _ => .error .malformed

/-- A heading that adds a table to a list. -/
def listHeading (d : Draft) (t : Text) : Reading Draft :=
  match key (skipBlanks t) with
  | .error e => .error e
  | .ok (names, ']' :: ']' :: r) =>
    match d.marks.openInList? names,
        Table.updateAt? true (Table.addToList? (names.getLastD [])) names.dropLast d.entries with
    | some marks, some entries => .ok ({ entries, marks, heading := names }, r)
    | _, _ => .error .malformed
  | .ok _ => .error .malformed

/-- The tables that a dotted name goes through, from the heading on. -/
def passed (d : Draft) (names : Key) : List Key :=
  (List.range names.length).tail.map fun n => d.heading ++ names.take n

/-- A line with a name and a value. -/
def entry (d : Draft) (t : Text) : Reading Draft :=
  match key t with
  | .error e => .error e
  | .ok (names, '=' :: r) =>
    match value (2 * r.length + 2) (skipBlanks r) with
    | .error e => .error e
    | .ok (v, r) =>
      let parent := d.heading ++ names.dropLast
      let passed := d.passed names
      if passed.any d.marks.isOpened || (!parent.isEmpty && d.marks.isFrozen parent) then
        .error .malformed
      else
        match Table.updateAt? true (Table.add? (names.getLastD []) v) parent d.entries with
        | none => .error .malformed
        | some entries =>
          let marks := { d.marks with pending := passed ++ d.marks.pending }
          let marks := if isClosedValue v then marks.freeze (d.heading ++ names) else marks
          .ok ({ d with entries, marks }, r)
  | .ok _ => .error .malformed

/-- One statement: a heading, an entry, or nothing before a comment or the end of the line. -/
def statement (d : Draft) (t : Text) : Reading Draft :=
  match t with
  | '[' :: '[' :: r => { d with marks := d.marks.settle }.listHeading r
  | '[' :: r => { d with marks := d.marks.settle }.tableHeading r
  | '#' :: _ => .ok (d, t)
  | c :: _ =>
    if isBareKeyChar c || c == '"' || c == '\'' then d.entry t else .error .malformed
  | [] => .ok (d, [])

/-- The statements of a document; every line ends, so `fuel` lines suffice. -/
def statements : Nat → Draft → Text → Except Trouble Draft
  | 0, d, _ => .ok d
  | fuel + 1, d, t =>
    match skipBlanks t with
    | [] => .ok d
    | '\n' :: r => statements fuel d r
    | t =>
      match d.statement t with
      | .error e => .error e
      | .ok (d, r) =>
        match comment (skipBlanks r) with
        | .error e => .error e
        | .ok [] => .ok d
        | .ok ('\n' :: r) => statements fuel d r
        | .ok _ => .error .malformed

end Draft

/-- The document in a text. -/
def read (t : Text) : Except Trouble Table :=
  let t := Text.replace ['\r', '\n'] ['\n'] t
  (Draft.statements (t.length + 1) {} t).map Draft.entries

end Recurrence.Document
