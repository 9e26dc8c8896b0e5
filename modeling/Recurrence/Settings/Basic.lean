import Recurrence.Rule.Description

/-! The settings, and the document they are kept in. -/

namespace Recurrence

structure Settings where
  title : Text := "Rrkit Configuration".toList
  /-- The ceiling of occurrences of an expansion. -/
  maxInstances : Nat := 365
  /-- The ceiling of occurrences fetched for a stored event. -/
  queryLimit : Nat := 200
  /-- How many years after the anchor occurrences are looked for. -/
  horizonYears : Nat := 2
  language : Language := .chinese
  /-- Times of day on the clock of 12 hours. -/
  twelveHours : Bool := false
  /-- Entries go to the journal. -/
  journal : Bool := true
  maxInstances_pos : 1 ≤ maxInstances := by decide
  queryLimit_pos : 1 ≤ queryLimit := by decide
  horizonYears_pos : 1 ≤ horizonYears := by decide

namespace Settings

def default : Settings := {}

def flagText (b : Bool) : Text := if b then "true".toList else "false".toList

/-- The lines up to the ceiling of an expansion. -/
def opening : Text :=
  ("\n\n[generation]\n".toList
    ++ "# Upper bound on the number of occurrences walked for one series.\n".toList
    ++ "# max_instances: int >= 1\nmax_instances = ".toList)

def beforeQueryLimit : Text :=
  ("\n\n# Ceiling used when instances are fetched for a stored event and a\n".toList
    ++ "# display window.\n# query_limit: int >= 1\nquery_limit = ".toList)

def beforeHorizon : Text :=
  ("\n\n# Occurrences are never generated more than this many years after the\n".toList
    ++ "# anchor date, whatever the rule's UNTIL says.\n".toList
    ++ "# horizon_years: int >= 1\nhorizon_years = ".toList)

def beforeLanguage : Text := "\n\n[display]\n# lang: str = 'zh' | 'en'\nlang = \"".toList

def beforeTwelveHours : Text := "\"\n\n# ampm: bool = true | false\nampm = ".toList

def beforeJournal : Text :=
  ("\n\n[log]\n# Write log_msg entries to logs/log_<YYMMDD>.md under the home directory.\n".toList
    ++ "# enabled: bool = true | false\nenabled = ".toList)

/-- The document of the settings, with comments. The title is written as it is. -/
def write (s : Settings) : Except Fault Text := do
  let maxInstances ← Integer.write s.maxInstances
  let queryLimit ← Integer.write s.queryLimit
  let horizonYears ← Integer.write s.horizonYears
  .ok ("title = \"".toList ++ s.title ++ '"' :: opening ++ maxInstances
    ++ beforeQueryLimit ++ queryLimit ++ beforeHorizon ++ horizonYears
    ++ beforeLanguage ++ s.language.code ++ beforeTwelveHours ++ flagText s.twelveHours
    ++ beforeJournal ++ flagText s.journal ++ ['\n'])

end Settings

end Recurrence
