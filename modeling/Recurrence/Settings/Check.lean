import Recurrence.Settings.Basic
import Recurrence.Document.Basic
import Recurrence.Magnitude

/-! Settings from the values of a document. Numbers and flags may be written as text or as each
other where nothing is lost; what is missing keeps its default, and names that are not known are
passed over. All problems are reported, in the order of the settings. -/

namespace Recurrence

inductive SettingsProblem
  | notATable | notAText | unknownLanguage
  | notAnInteger | integerUnreadable | integerTooLong | hasFraction | notFinite | tooSmall
  | notAFlag | flagUnreadable
  deriving DecidableEq

def SettingsProblem.code : SettingsProblem → Text
  | notATable => "model_type".toList
  | notAText => "string_type".toList
  | unknownLanguage => "string_pattern_mismatch".toList
  | notAnInteger => "int_type".toList
  | integerUnreadable => "int_parsing".toList
  | integerTooLong => "int_parsing_size".toList
  | hasFraction => "int_from_float".toList
  | notFinite => "finite_number".toList
  | tooSmall => "greater_than_equal".toList
  | notAFlag => "bool_type".toList
  | flagUnreadable => "bool_parsing".toList

namespace SettingsProblem

abbrev Checked (α : Type) := Except SettingsProblem α

/-- A numeral: a minus sign or none, and digits with no zero in front of others. One that is too
long is known by its sign and digits, whatever follows them. -/
def numeral (t : Text) : Checked Int :=
  let (negative, body) :=
    match t with
    | '-' :: r => (true, r)
    | _ => (false, t)
  let digits := body.takeWhile Char.isDigit
  match digits with
  | [] => .error .integerUnreadable
  | '0' :: _ :: _ => .error .integerUnreadable
  | _ =>
    if digitLimit < digits.length + (if negative then 1 else 0) then .error .integerTooLong
    else if digits.length < body.length then .error .integerUnreadable
    else
      let n := Integer.ofDigits (digits.map fun c => c.toNat - 48)
      .ok (if negative then -(n : Int) else (n : Int))

/-- A numeral without the zeros and underscores in front, unless they are all there is: then the
last of them is left, as it is in front of a full stop. A minus sign may follow them. -/
def withoutLeadingZeros? (t : Text) : Option Text :=
  match t with
  | '0' :: r =>
    let skipped := r.takeWhile fun c => c == '0' || c == '_'
    match r.drop skipped.length with
    | [] => some [skipped.getLastD '0']
    | '.' :: rest => some (skipped.getLastD '0' :: '.' :: rest)
    | c :: rest => if c.isDigit || c == '-' then some (c :: rest) else none
  | c :: _ => if c.isDigit then some t else none
  | [] => none

/-- A fraction of zeros only, of one at least, is left out. -/
def withoutZeroFraction (t : Text) : Text :=
  match t.cut? '.' with
  | some (whole, fraction) =>
    if !fraction.isEmpty && fraction.all (· == '0') then whole else t
  | none => t

/-- Underscores are left out where they stand singly between other characters. -/
def withoutUnderscores (t : Text) : Text :=
  if (Text.pieces '_' t).all fun p => !p.isEmpty then t.filter (· != '_') else t

/-- The plain form of a numeral without a sign in front. -/
def plainNumeral? (t : Text) : Option Text :=
  (withoutLeadingZeros? t).map fun t => withoutUnderscores (withoutZeroFraction t)

/-- The plain form of a numeral with white space around it and a sign or none. -/
def plainSignedNumeral? (t : Text) : Option Text :=
  match t.trimBoth Integer.isSurrounding with
  | '-' :: r => (plainNumeral? r).map ('-' :: ·)
  | '+' :: r => plainNumeral? r
  | r => plainNumeral? r

/-- An integer written as text, as a plain numeral or in a looser form. -/
def integerOfText (t : Text) : Checked Int :=
  match numeral t, plainSignedNumeral? t with
  | .error .integerUnreadable, some plain => numeral plain
  | read, _ => read

/-- An integer written as a number with a fraction. -/
def integerOfFloat (x : FloatValue) : Checked Int :=
  match x, x.integer? with
  | .infinite, _ => .error .notFinite
  | .notANumber, _ => .error .notFinite
  | _, none => .error .hasFraction
  | _, some n => if n.natAbs < wordLimit then .ok n else .error .integerTooLong

def integer : Value → Checked Int
  | .integer n => .ok n
  | .flag b => .ok (if b then 1 else 0)
  | .text t => integerOfText t
  | .float x => integerOfFloat x
  | _ => .error .notAnInteger

/-- An integer of at least one. -/
def positive (v : Value) : Checked { n : Nat // 1 ≤ n } :=
  match integer v with
  | .error e => .error e
  | .ok n => if h : 1 ≤ n.toNat then .ok ⟨n.toNat, h⟩ else .error .tooSmall

def flagOfInteger (n : Int) : Checked Bool :=
  if n = 1 then .ok true else if n = 0 then .ok false else .error .flagUnreadable

def flagWords (b : Bool) : List Text :=
  if b then ["1", "t", "y", "on", "yes", "true"].map String.toList
  else ["0", "f", "n", "no", "off", "false"].map String.toList

def flag : Value → Checked Bool
  | .flag b => .ok b
  | .text t =>
    let word := t.map Char.toLower
    if (flagWords true).contains word then .ok true
    else if (flagWords false).contains word then .ok false
    else .error .flagUnreadable
  | .integer n => if n.natAbs < wordLimit then flagOfInteger n else .error .notAFlag
  | .float x =>
    match integerOfFloat x with
    | .ok n => flagOfInteger n
    | .error _ => .error .notAFlag
  | _ => .error .notAFlag

def plainText : Value → Checked Text
  | .text t => .ok t
  | _ => .error .notAText

def languageOf : Value → Checked Language
  | .text t =>
    if t = Language.chinese.code then .ok .chinese
    else if t = Language.english.code then .ok .english
    else .error .unknownLanguage
  | _ => .error .notAText

def table : Value → Checked Table
  | .table t => .ok t
  | _ => .error .notATable

end SettingsProblem

/-- Where a problem lies, as names with full stops between them, and what it is. -/
structure SettingsReport where
  place : Text
  problem : SettingsProblem
  deriving DecidableEq

namespace Settings

open SettingsProblem

/-- The value under a name, or its default; a problem is reported at the place. -/
def field {α : Type} (t : Table) (name place : Text) (read : Value → Checked α) (default : α) :
    α × List SettingsReport :=
  match t.get? name with
  | none => (default, [])
  | some v =>
    match read v with
    | .ok a => (a, [])
    | .error problem => (default, [⟨place, problem⟩])

/-- The settings in a table, or everything that is wrong with it. -/
def ofTable (t : Table) : Except (List SettingsReport) Settings :=
  let (title, p₁) := field t "title".toList "title".toList plainText default.title
  let (generation, p₂) := field t "generation".toList "generation".toList table []
  let (maxInstances, p₃) :=
    field generation "max_instances".toList "generation.max_instances".toList positive
      ⟨default.maxInstances, default.maxInstances_pos⟩
  let (queryLimit, p₄) :=
    field generation "query_limit".toList "generation.query_limit".toList positive
      ⟨default.queryLimit, default.queryLimit_pos⟩
  let (horizonYears, p₅) :=
    field generation "horizon_years".toList "generation.horizon_years".toList positive
      ⟨default.horizonYears, default.horizonYears_pos⟩
  let (display, p₆) := field t "display".toList "display".toList table []
  let (language, p₇) := field display "lang".toList "display.lang".toList languageOf default.language
  let (twelveHours, p₈) := field display "ampm".toList "display.ampm".toList flag default.twelveHours
  let (log, p₉) := field t "log".toList "log".toList table []
  let (journal, p₁₀) := field log "enabled".toList "log.enabled".toList flag default.journal
  match p₁ ++ p₂ ++ p₃ ++ p₄ ++ p₅ ++ p₆ ++ p₇ ++ p₈ ++ p₉ ++ p₁₀ with
  | [] =>
    .ok {
      title, language, twelveHours, journal
      maxInstances := maxInstances.1, maxInstances_pos := maxInstances.2
      queryLimit := queryLimit.1, queryLimit_pos := queryLimit.2
      horizonYears := horizonYears.1, horizonYears_pos := horizonYears.2 }
  | reports => .error reports

/-- The settings in a value, which must be a table. -/
def ofValue (v : Value) : Except (List SettingsReport) Settings :=
  match table v with
  | .ok t => ofTable t
  | .error problem => .error [⟨[], problem⟩]

end Settings

end Recurrence
