import Recurrence.Terminal.Action.Form
import Recurrence.Terminal.Action.Token

/-! Expressions are read from tokens: choices, comparisons, sums and the like, calls, attributes,
tuples, sets and tables. A text is read a second time, closely, when it does not fit: the close
reading looks for the commonest slips. A bracket that nothing closes is noticed as soon as the end
is looked at. -/

namespace Recurrence.Terminal

/-- The tokens before the reader, and the brackets open behind the last one it has read. -/
structure Ahead where
  rest : List PlacedToken
  depth : Nat

/-- A reading goes on with the tokens left, or does not fit, or ends all reading for a reason. -/
abbrev Reading := StateT Ahead (Except (Option ExpressionProblem))

namespace Reading

def misfit {α : Type} : Reading α := throw none

def stop {α : Type} (problem : ExpressionProblem) : Reading α := throw (some problem)

/-- What does not fit leaves the tokens as they were. -/
def attempt {α : Type} (r : Reading α) : Reading (Option α) := fun ahead =>
  match r ahead with
  | .ok (a, others) => .ok (some a, others)
  | .error none => .ok (none, ahead)
  | .error (some problem) => .error (some problem)

/-- Reads without going on. -/
def look {α : Type} (r : Reading α) : Reading (Option α) := do
  let ahead ← get
  let found ← attempt r
  set ahead
  return found

/-- As often as it fits. -/
def many {α : Type} (r : Reading α) : (fuel : Nat) → Reading (List α)
  | 0 => return []
  | fuel + 1 => do
    match ← attempt r with
    | none => return []
    | some a => return a :: (← many r fuel)

/-- The next token. -/
def token : Reading Token := do
  match (← get).rest with
  | [] => return .finish
  | p :: _ =>
    match p.token with
    | .blocked problem => stop problem
    | t => return t

def advance : Reading Unit := modify fun ahead =>
  match ahead.rest with
  | [] => ahead
  | p :: rest => ⟨rest, p.depth⟩

def accept (wanted : Token) : Reading Unit := do
  if (← token) = wanted then advance else misfit

def mark (m : String) : Reading Unit := accept (.mark m.toList)

def word (w : String) : Reading Unit := accept (.word w.toList)

def nextIs (m : String) : Reading Bool := return (← token) = .mark m.toList

def oneOf (ms : List String) : Reading Text := do
  match ← token with
  | .mark m => if (ms.map String.toList).contains m then advance; return m else misfit
  | _ => misfit

/-- Words with a meaning of their own. -/
def reserved : List String :=
  ["False", "None", "True", "and", "as", "assert", "async", "await", "break", "class", "continue",
   "def", "del", "elif", "else", "except", "finally", "for", "from", "global", "if", "import",
   "in", "is", "lambda", "nonlocal", "not", "or", "pass", "raise", "return", "try", "while",
   "with", "yield"]

def name : Reading Text := do
  match ← token with
  | .word w => if (reserved.map String.toList).contains w then misfit else advance; return w
  | _ => misfit

def nameBefore (m : String) : Reading Text := do
  let n ← name
  mark m
  return n

/-- Quoted texts side by side are one; bytes and characters do not mix. -/
def quotedTexts (fuel : Nat) : Reading Form := do
  let one : Reading (QuoteKind × Option ExpressionProblem) := do
    match ← token with
    | .quoted kind problem => advance; return (kind, problem)
    | _ => misfit
  let texts ← many one fuel
  match texts with
  | [] => misfit
  | (first, _) :: _ =>
    let wrong := texts.findSome? fun p =>
      p.2.or (if p.1.ofBytes = first.ofBytes then none else some .bytesBesideText)
    match wrong with
    | some problem => stop problem
    | none =>
      if texts.any (·.1.computed) then return .other "f-string expression".toList
      else return .quoted

/-- An expression, and whether nothing but operators on numbers binds its parts. -/
structure Part where
  form : Form
  simple : Bool

def compound (title : String) : Part := ⟨.other title.toList, false⟩

/-- Functions that many call without brackets. -/
def calledBare (t : Text) : Bool := t == "print".toList || t == "exec".toList

/-- Does a text begin with a word after which another expression may stand? -/
def beginsStatement (start : Ahead) : Reading Bool := do
  let here ← get
  set start
  let found ← attempt do
    let n ← name
    if ["_", "case", "match"].any fun w => n.isPrefixOf w.toList then return true
    match ← token with
    | .quoted _ _ => return true
    | _ => return false
  set here
  return found.getD false

/-- How far the arguments of a call have come. -/
inductive ArgumentStage
  | placed
  | named
  /-- A table of named arguments has been spread. -/
  | spread
  deriving DecidableEq

mutual

/-- Any expression but an assignment. -/
def expression (closely : Bool) : (fuel : Nat) → Reading Part
  | 0 => misfit
  | fuel + 1 => do
    let start ← get
    let first ← disjunction closely fuel
    expressionBehind closely closely start first fuel

/-- The expression that began at `start` with a part that has been read. The parts that belong to
it are read closely if `partsToo`. -/
def expressionBehind (closely partsToo : Bool) (start : Ahead) (first : Part) :
    (fuel : Nat) → Reading Part
  | 0 => misfit
  | fuel + 1 => do
    let behindFirst ← get
    let bareName? := match first.form with
      | .name n => some n
      | _ => none
    let statement ← if closely then beginsStatement start else pure false
    if closely && !statement then
      if (← attempt (expression false fuel)).isSome then
        if !bareName?.any calledBare && (← get).depth != 0 then stop .commaMissing
        set behindFirst
    let condition ← attempt do
      word "if"
      let _ ← disjunction partsToo fuel
      if closely then
        let next ← token
        if next != .word "else".toList && next != .mark [':'] then stop .elseMissing
    if closely then
      let behindCondition ← get
      set start
      bareCall bareName?.isSome statement fuel
      set behindCondition
    let choice ← attempt do
      if condition.isNone then misfit
      word "else"
      expression partsToo fuel
    match choice with
    | some _ => return compound "conditional expression"
    | none =>
      set behindFirst
      return first

/-- Stops at a function that is called without brackets. Other names are looked at only where they
stand alone; what follows them there is read all the same, the first expression closely only if it
has not been read before. -/
def bareCall (alone closely : Bool) : (fuel : Nat) → Reading Unit
  | 0 => return
  | fuel + 1 => do
    match ← attempt name with
    | none => return
    | some n =>
      if !alone && !closely && !calledBare n then return
      if ← nextIs "(" then return
      if (← attempt (starredItem closely fuel)).isSome then
        let _ ← many (do mark ","; starredItem true fuel) fuel
        if calledBare n then stop (.bracketsMissing n)

/-- An expression with or without a star, outside brackets; `closely` is about the parts of it. -/
def starredItem (closely : Bool) : (fuel : Nat) → Reading Unit
  | 0 => misfit
  | fuel + 1 => do
    if ← nextIs "*" then
      advance
      let _ ← arithmetic true fuel
    else
      let start ← get
      let first ← disjunction closely fuel
      let _ ← expressionBehind true closely start first fuel

def disjunction (closely : Bool) : (fuel : Nat) → Reading Part
  | 0 => misfit
  | fuel + 1 => do
    let first ← inversion closely fuel
    let more ← many
      (do
        if (← attempt (word "or")).isNone then word "and"
        inversion closely fuel)
      fuel
    if more.isEmpty then return first else return compound "expression"

def inversion (closely : Bool) : (fuel : Nat) → Reading Part
  | 0 => misfit
  | fuel + 1 => do
    match ← attempt (word "not") with
    | some _ =>
      let _ ← inversion closely fuel
      return compound "expression"
    | none => comparison closely fuel

def comparison (closely : Bool) : (fuel : Nat) → Reading Part
  | 0 => misfit
  | fuel + 1 => do
    let first ← arithmetic closely fuel
    let more ← many
      (do
        match ← attempt (do word "is"; word "not"; arithmetic closely fuel) with
        | some _ => return
        | none =>
          match ← token with
          | .word w =>
            if w = "not".toList then advance; word "in"
            else if w = "in".toList || w = "is".toList then advance
            else misfit
          | _ =>
            let _ ← oneOf ["==", "!=", "<=", "<", ">=", ">"]
          let _ ← arithmetic closely fuel)
      fuel
    if more.isEmpty then return first else return compound "comparison"

/-- Operators on numbers. Their ranks do not matter here. -/
def arithmetic (closely : Bool) : (fuel : Nat) → Reading Part
  | 0 => misfit
  | fuel + 1 => do
    let first ← factor closely fuel
    let more ← many
      (do
        let operator ← oneOf ["|", "^", "&", "<<", ">>", "+", "-", "*", "/", "//", "%", "@"]
        return (operator, ← factor closely fuel))
      fuel
    match more with
    | [] => return ⟨first, true⟩
    | [(operator, second)] =>
      if operator = ['+'] || operator = ['-'] then return ⟨.sum first second, true⟩
      else return ⟨.other "expression".toList, true⟩
    | _ => return ⟨.other "expression".toList, true⟩

def factor (closely : Bool) : (fuel : Nat) → Reading Form
  | 0 => misfit
  | fuel + 1 => do
    match ← attempt (oneOf ["+", "-", "~"]) with
    | some ['~'] =>
      let _ ← factor closely fuel
      return .other "expression".toList
    | some _ => return .signed (← factor closely fuel)
    | none =>
      let base ← primary closely fuel
      match ← attempt (do mark "**"; factor closely fuel) with
      | some _ => return .other "expression".toList
      | none => return base

/-- An atom with attributes and calls behind it. Braces there do not fit, but are looked into. -/
def primary (closely : Bool) : (fuel : Nat) → Reading Form
  | 0 => misfit
  | fuel + 1 => do
    let first ← atom closely fuel
    let more ← many
      (do
        if ← nextIs "." then
          advance
          let _ ← name
          return fun _ => Form.other "attribute".toList
        else
          mark "("
          let bare ← nextIs ")"
          if !bare then arguments closely .placed fuel
          mark ")"
          return fun function => Form.call function bare)
      fuel
    if closely then
      let _ ← look do
        mark "\x7b"
        if ← nextIs "*" then
          let _ ← look (starred closely fuel)
        let _ ← item closely fuel
        mark ","
        items closely fuel
    return more.foldl (fun form behind => behind form) first

def atom (closely : Bool) : (fuel : Nat) → Reading Form
  | 0 => misfit
  | fuel + 1 => do
    match ← token with
    | .word w =>
      if ["False", "None", "True"].any (·.toList == w) then
        advance
        return .constant w
      else return .name (← name)
    | .number imaginary problem =>
      match problem with
      | some p => stop p
      | none =>
        advance
        return .number imaginary
    | .quoted _ _ => quotedTexts fuel
    | _ =>
      if ← nextIs "(" then return (← inBrackets closely fuel).1
      else if ← nextIs "\x7b" then inBraces closely fuel
      else
        mark "..."
        return .dots

/-- What stands in round brackets, and whether it is a tuple. -/
def inBrackets (closely : Bool) : (fuel : Nat) → Reading (Form × Bool)
  | 0 => misfit
  | fuel + 1 => do
    mark "("
    if (← attempt (mark ")")).isSome then return (.tuple [], true)
    if ← nextIs "*" then
      let several ← attempt do
        let first ← item closely fuel
        mark ","
        let rest ← items closely fuel
        mark ")"
        return Form.tuple (first :: rest)
      match several with
      | some tuple => return (tuple, true)
      | none =>
        if closely then
          starred closely fuel
          if ← nextIs ")" then stop .starInBrackets
        misfit
    else if closely && (← nextIs "**") then
      advance
      let _ ← expression closely fuel
      if ← nextIs ")" then stop .doubleStarInBrackets
      misfit
    else
      let first ← named closely fuel
      if (← attempt (mark ")")).isSome then return (first.form, false)
      mark ","
      let rest ← items closely fuel
      mark ")"
      return (.tuple (first.form :: rest), true)

/-- A star and what it must spread. -/
def starred (closely : Bool) : (fuel : Nat) → Reading Unit
  | 0 => misfit
  | fuel + 1 => do
    mark "*"
    if (← attempt (expression closely fuel)).isNone then stop .starAlone

/-- One item of a tuple or a set. -/
def item (closely : Bool) : (fuel : Nat) → Reading Form
  | 0 => misfit
  | fuel + 1 => do
    if ← nextIs "*" then
      advance
      let _ ← arithmetic closely fuel
      return .other "starred".toList
    else return (← named closely fuel).form

/-- Items with commas between them and perhaps one at the end, or none. -/
def items (closely : Bool) : (fuel : Nat) → Reading (List Form)
  | 0 => return []
  | fuel + 1 => do
    match ← attempt (item closely fuel) with
    | none => return []
    | some first =>
      if (← attempt (mark ",")).isSome then return first :: (← items closely fuel)
      else return [first]

/-- An expression that may be given a name. -/
def named (closely : Bool) : (fuel : Nat) → Reading Part
  | 0 => misfit
  | fuel + 1 => do
    match ← attempt (nameBefore ":=") with
    | some _ =>
      let _ ← expression closely fuel
      return compound "named expression"
    | none =>
      let start ← get
      let first ← expression closely fuel
      namedBehind closely start first fuel

/-- Looks behind an expression, which began at `start`, for signs of an assignment. -/
def namedBehind (closely : Bool) (start : Ahead) (first : Part) : (fuel : Nat) → Reading Part
  | 0 => misfit
  | fuel + 1 => do
    if closely then
      if (← look (do mark ":="; expression closely fuel)).isSome then
        stop (.namedOn first.form.title)
      if first.simple && (← nextIs "=") then
        let assigned ← look do
          let behind ← get
          set start
          let isName := (← look (nameBefore "=")).isSome
          if !isName then
            if ((← look (inBrackets closely fuel)).map Prod.snd).getD false then misfit
            match ← token with
            | .word w => if ["False", "None", "True"].any (·.toList == w) then misfit
            | _ => pure ()
          set behind
          mark "="
          let _ ← arithmetic closely fuel
          if (← nextIs "=") || (← nextIs ":=") then misfit
          return isName
        match assigned with
        | none => pure ()
        | some true => stop .comparisonMeant
        | some false => stop (.assigned first.form.title)
    if ← nextIs ":=" then misfit
    return first

/-- What stands in braces: a table or a set. -/
def inBraces (closely : Bool) : (fuel : Nat) → Reading Form
  | 0 => misfit
  | fuel + 1 => do
    mark "\x7b"
    if (← attempt (mark "\x7d")).isSome then return .table []
    if ← nextIs "**" then
      let found ← entries closely false fuel
      mark "\x7d"
      return .table found
    else if ← nextIs "*" then
      let members ← attempt do
        let found ← items closely fuel
        mark "\x7d"
        if found.isEmpty then misfit
        return Form.set found
      match members with
      | some found => return found
      | none =>
        if closely then starred closely fuel
        misfit
    else
      let start ← get
      let isNamed := (← look (nameBefore ":=")).isSome
      let first ← if isNamed then named closely fuel else expression closely fuel
      if !isNamed && (← nextIs ":") then
        let found ← entriesBehind closely first.form fuel
        mark "\x7d"
        return .table found
      else
        let first ← if isNamed then pure first else namedBehind closely start first fuel
        let rest ← if (← attempt (mark ",")).isSome then items closely fuel else pure []
        mark "\x7d"
        return .set (first.form :: rest)

/-- The entries of a table; `later` says that others stand before them. -/
def entries (closely later : Bool) : (fuel : Nat) → Reading (List (Option Form × Form))
  | 0 => misfit
  | fuel + 1 => do
    if (← attempt (mark "**")).isSome then
      let spread ← arithmetic closely fuel
      return (none, spread.form) :: (← moreEntries closely fuel)
    else
      let key ← expression closely fuel
      if later && !(← nextIs ":") then stop .entryWithoutColon
      entriesBehind closely key.form fuel

/-- The entries of a table behind its first key. -/
def entriesBehind (closely : Bool) (key : Form) :
    (fuel : Nat) → Reading (List (Option Form × Form))
  | 0 => misfit
  | fuel + 1 => do
    mark ":"
    match ← attempt (expression closely fuel) with
    | some value => return (some key, value.form) :: (← moreEntries closely fuel)
    | none =>
      if (← look (do mark "*"; arithmetic closely fuel)).isSome then stop .starAsEntry
      if (← nextIs "\x7d") || (← nextIs ",") then stop .entryWithoutValue
      misfit

/-- The entries behind a comma, if there are any. -/
def moreEntries (closely : Bool) : (fuel : Nat) → Reading (List (Option Form × Form))
  | 0 => return []
  | fuel + 1 => do
    if (← attempt (mark ",")).isSome && !(← nextIs "\x7d") then entries closely true fuel
    else return []

/-- The arguments of a call, the first of which may still be of every kind at `stage`. -/
def arguments (closely : Bool) (stage : ArgumentStage) : (fuel : Nat) → Reading Unit
  | 0 => misfit
  | fuel + 1 => do
    let next ← argument closely stage fuel
    if (← attempt (mark ",")).isSome && !(← nextIs ")") then arguments closely next fuel

/-- One argument, and the stage behind it. -/
def argument (closely : Bool) (stage : ArgumentStage) : (fuel : Nat) → Reading ArgumentStage
  | 0 => misfit
  | fuel + 1 => do
    if ← nextIs "*" then
      if stage = .spread then if closely then stop .spreadAfterTable else misfit
      starred closely fuel
      return stage
    else if ← nextIs "**" then
      advance
      let _ ← expression closely fuel
      return .spread
    else if (← attempt (nameBefore "=")).isSome then
      let _ ← expression closely fuel
      return if stage = .placed then .named else stage
    else if stage != .placed && !closely then misfit
    else
      let start ← token
      let given ← if (← attempt (nameBefore ":=")).isSome then expression closely fuel
        else do
          let e ← expression closely fuel
          if ← nextIs ":=" then misfit
          pure e
      if ← nextIs "=" then
        if !closely then misfit
        match given.form, start with
        | .constant w, .word _ => stop (.assignedWord w)
        | _, _ => stop .argumentAssigned
      if stage = .placed then return stage
      if closely then
        let _ ← look (do mark ","; arguments closely .placed fuel)
        stop (if stage = .spread then .placedAfterSpread else .placedAfterNamed)
      misfit

end

/-- A whole text: one expression, or several with commas between them. -/
def whole (closely : Bool) (fuel : Nat) : Reading Form := do
  let first ← expression closely fuel
  let rest ← many (do mark ","; expression closely fuel) fuel
  let comma ← attempt (mark ",")
  let _ ← many (accept .lineEnd) fuel
  accept .finish
  if rest.isEmpty && comma.isNone then return first.form
  else return .tuple ((first :: rest).map Part.form)

end Reading

/-- The form of the expression in a text. A fault among the tokens, wherever it is, outweighs what
the reader stops at. -/
def Form.read (t : Text) : Except ExpressionProblem Form :=
  let ts := tokens t
  let start : Ahead := ⟨ts.placed, 0⟩
  let fuel := 20 * (ts.placed.length + 2)
  let stoppedBy : Except (Option ExpressionProblem) (Form × Ahead) → Option ExpressionProblem
    | .ok _ => none
    | .error problem => problem
  match (Reading.whole false fuel).run start with
  | .ok (form, _) => .ok form
  | .error problem =>
    match problem.or (stoppedBy ((Reading.whole true fuel).run start)) with
    | some .indented => .error .indented
    | found => .error ((ts.problem.or found).getD .outOfPlace)

end Recurrence.Terminal
