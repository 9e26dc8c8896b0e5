import Recurrence.Proofs.Document.Lines
import Recurrence.Proofs.Text.LineEnd
import Recurrence.Settings.File

/-! Settings as they are written. The document they are written as is read back as the same
settings if the title can stand between quotes as it is. -/

namespace Recurrence.Settings

open Document Document.Draft

variable {s : Settings} {t : Text} {c : Char}

/-- No number among the settings has more digits than are written. -/
structure IsShort (s : Settings) : Prop where
  maxInstances : Integer.IsShort s.maxInstances
  queryLimit : Integer.IsShort s.queryLimit
  horizonYears : Integer.IsShort s.horizonYears

/-- The document of settings, however long their numbers are. -/
def shown (s : Settings) : Text :=
  "title = \"".toList ++ s.title ++ '"' :: opening ++ decimal s.maxInstances
    ++ beforeQueryLimit ++ decimal s.queryLimit ++ beforeHorizon ++ decimal s.horizonYears
    ++ beforeLanguage ++ s.language.code ++ beforeTwelveHours ++ flagText s.twelveHours
    ++ beforeJournal ++ flagText s.journal ++ ['\n']

theorem write_eq_ok : s.write = .ok t ↔ s.IsShort ∧ t = s.shown := by
  rw [write]
  constructor
  · intro given
    obtain ⟨m, most, given⟩ := bind_eq_ok.mp given
    obtain ⟨q, query, given⟩ := bind_eq_ok.mp given
    obtain ⟨h, horizon, given⟩ := bind_eq_ok.mp given
    obtain ⟨shortMost, rfl⟩ := Integer.write_eq_ok most
    obtain ⟨shortQuery, rfl⟩ := Integer.write_eq_ok query
    obtain ⟨shortHorizon, rfl⟩ := Integer.write_eq_ok horizon
    exact ⟨⟨shortMost, shortQuery, shortHorizon⟩, (Except.ok.inj given).symm⟩
  · rintro ⟨short, rfl⟩
    rw [Integer.write_of_isShort short.maxInstances, Integer.write_of_isShort short.queryLimit,
      Integer.write_of_isShort short.horizonYears]
    rfl

/-! The document line by line. -/

/-- The front of a line with a name and a value. -/
def assigned (name : String) : Text := name.toList ++ " = ".toList

def line (name : String) (written : Text) : Text := assigned name ++ written ++ ['\n']

def remark (words : String) : Text := '#' :: words.toList ++ ['\n']

def headingLine (name : String) : Text := '[' :: (name.toList ++ [']']) ++ ['\n']

def generationLines (s : Settings) : Text :=
  ['\n'] ++ (headingLine "generation"
    ++ (remark " Upper bound on the number of occurrences walked for one series."
    ++ (remark " max_instances: int >= 1"
    ++ (line "max_instances" (decimal s.maxInstances)
    ++ (['\n']
    ++ (remark " Ceiling used when instances are fetched for a stored event and a"
    ++ (remark " display window."
    ++ (remark " query_limit: int >= 1"
    ++ (line "query_limit" (decimal s.queryLimit)
    ++ (['\n']
    ++ (remark " Occurrences are never generated more than this many years after the"
    ++ (remark " anchor date, whatever the rule's UNTIL says."
    ++ (remark " horizon_years: int >= 1"
    ++ line "horizon_years" (decimal s.horizonYears))))))))))))))

def displayLines (s : Settings) : Text :=
  ['\n'] ++ (headingLine "display"
    ++ (remark " lang: str = 'zh' | 'en'"
    ++ (line "lang" ('"' :: s.language.code ++ ['"'])
    ++ (['\n']
    ++ (remark " ampm: bool = true | false"
    ++ line "ampm" (flagText s.twelveHours))))))

def logLines (s : Settings) : Text :=
  ['\n'] ++ (headingLine "log"
    ++ (remark " Write log_msg entries to logs/log_<YYMMDD>.md under the home directory."
    ++ (remark " enabled: bool = true | false"
    ++ line "enabled" (flagText s.journal))))

theorem opening_eq : opening = ['\n'] ++ (['\n'] ++ (headingLine "generation"
    ++ (remark " Upper bound on the number of occurrences walked for one series."
    ++ (remark " max_instances: int >= 1"
    ++ assigned "max_instances")))) := by
  unfold opening headingLine remark assigned
  repeat rw [String.toList_ofList]
  rfl

theorem beforeQueryLimit_eq : beforeQueryLimit = ['\n'] ++ (['\n']
    ++ (remark " Ceiling used when instances are fetched for a stored event and a"
    ++ (remark " display window."
    ++ (remark " query_limit: int >= 1"
    ++ assigned "query_limit")))) := by
  unfold beforeQueryLimit remark assigned
  repeat rw [String.toList_ofList]
  rfl

theorem beforeHorizon_eq : beforeHorizon = ['\n'] ++ (['\n']
    ++ (remark " Occurrences are never generated more than this many years after the"
    ++ (remark " anchor date, whatever the rule's UNTIL says."
    ++ (remark " horizon_years: int >= 1"
    ++ assigned "horizon_years")))) := by
  unfold beforeHorizon remark assigned
  repeat rw [String.toList_ofList]
  rfl

theorem beforeLanguage_eq : beforeLanguage = ['\n'] ++ (['\n'] ++ (headingLine "display"
    ++ (remark " lang: str = 'zh' | 'en'"
    ++ (assigned "lang" ++ ['"'])))) := by
  unfold beforeLanguage headingLine remark assigned
  repeat rw [String.toList_ofList]
  rfl

theorem beforeTwelveHours_eq : beforeTwelveHours = ['"'] ++ (['\n'] ++ (['\n']
    ++ (remark " ampm: bool = true | false"
    ++ assigned "ampm"))) := by
  unfold beforeTwelveHours remark assigned
  repeat rw [String.toList_ofList]
  rfl

theorem beforeJournal_eq : beforeJournal = ['\n'] ++ (['\n'] ++ (headingLine "log"
    ++ (remark " Write log_msg entries to logs/log_<YYMMDD>.md under the home directory."
    ++ (remark " enabled: bool = true | false"
    ++ assigned "enabled")))) := by
  unfold beforeJournal headingLine remark assigned
  repeat rw [String.toList_ofList]
  rfl

theorem shown_eq_lines (s : Settings) :
    s.shown = line "title" ('"' :: s.title ++ ['"'])
      ++ (generationLines s ++ (displayLines s ++ logLines s)) := by
  have title : "title = \"".toList = assigned "title" ++ ['"'] := by decide
  unfold shown
  generalize "title = \"".toList = front at title ⊢
  subst title
  simp only [generationLines, displayLines, logLines, line, opening_eq, beforeQueryLimit_eq,
    beforeHorizon_eq, beforeLanguage_eq, beforeTwelveHours_eq, beforeJournal_eq,
    List.append_assoc, List.cons_append, List.nil_append]

/-! The lines read back. -/

theorem writes_flagText (b : Bool) : Writes (flagText b) (.flag b) := by
  cases b with
  | true => exact writes_true
  | false => exact writes_false

theorem isPlain_code (l : Language) : IsPlain l.code := by
  cases l with
  | chinese => decide
  | english => decide

/-- The values of the table for the numbers of an expansion. -/
def generationTable (s : Settings) : Table :=
  [("max_instances".toList, .integer s.maxInstances), ("query_limit".toList, .integer s.queryLimit),
   ("horizon_years".toList, .integer s.horizonYears)]

def displayTable (s : Settings) : Table :=
  [("lang".toList, .text s.language.code), ("ampm".toList, .flag s.twelveHours)]

def logTable (s : Settings) : Table := [("enabled".toList, .flag s.journal)]

/-- The document of settings as values. -/
def document (s : Settings) : Table :=
  [("title".toList, .text s.title), ("generation".toList, .table s.generationTable),
   ("display".toList, .table s.displayTable), ("log".toList, .table s.logTable)]

theorem reads_remark (d : Draft) {words : String} {t : Text} (same : words.toList = t)
    (printing : ∀ c ∈ t, isControl c = false) : Reads d (remark words) d :=
  reads_comment d (same ▸ printing)

theorem reads_valueLine {d : Draft} {name : String} {written : Text} {v : Value} {entries : Table}
    (nonempty : name.toList ≠ []) (bare : ∀ c ∈ name.toList, isBareKeyChar c = true)
    (value : Writes written v) (openValue : isClosedValue v = false) (free : d.marks.frozen = [])
    (added : Table.updateAt? true (Table.add? name.toList v) d.heading d.entries = some entries) :
    Reads d (line name written) { d with entries } :=
  reads_entry nonempty bare value openValue free added

theorem reads_titleLine (plain : IsPlain s.title) :
    Reads {} (line "title" ('"' :: s.title ++ ['"'])) { entries := s.document.take 1 } :=
  reads_valueLine (by decide) (by decide) (writes_text plain) rfl rfl rfl

theorem reads_generationLines (short : s.IsShort) :
    Reads { entries := s.document.take 1 } (generationLines s)
      { entries := s.document.take 2, marks := { opened := [["generation".toList]] },
        heading := ["generation".toList] } := by
  have most := writes_decimal s.maxInstances_pos short.maxInstances
  have query := writes_decimal s.queryLimit_pos short.queryLimit
  have horizon := writes_decimal s.horizonYears_pos short.horizonYears
  apply (reads_blank _).trans
  apply (reads_heading (by decide) (by decide) rfl rfl).trans
  apply (reads_remark _ String.toList_ofList (by decide)).trans
  apply (reads_remark _ String.toList_ofList (by decide)).trans
  apply (reads_valueLine (by decide) (by decide) most rfl rfl rfl).trans
  apply (reads_blank _).trans
  apply (reads_remark _ String.toList_ofList (by decide)).trans
  apply (reads_remark _ String.toList_ofList (by decide)).trans
  apply (reads_remark _ String.toList_ofList (by decide)).trans
  apply (reads_valueLine (by decide) (by decide) query rfl rfl rfl).trans
  apply (reads_blank _).trans
  apply (reads_remark _ String.toList_ofList (by decide)).trans
  apply (reads_remark _ String.toList_ofList (by decide)).trans
  apply (reads_remark _ String.toList_ofList (by decide)).trans
  exact reads_valueLine (by decide) (by decide) horizon rfl rfl rfl

theorem reads_displayLines (s : Settings) :
    Reads { entries := s.document.take 2, marks := { opened := [["generation".toList]] },
            heading := ["generation".toList] } (displayLines s)
      { entries := s.document.take 3,
        marks := { opened := [["display".toList], ["generation".toList]] },
        heading := ["display".toList] } := by
  have language := writes_text (isPlain_code s.language)
  have twelveHours := writes_flagText s.twelveHours
  apply (reads_blank _).trans
  apply (reads_heading (by decide) (by decide) rfl rfl).trans
  apply (reads_remark _ String.toList_ofList (by decide)).trans
  apply (reads_valueLine (by decide) (by decide) language rfl rfl rfl).trans
  apply (reads_blank _).trans
  apply (reads_remark _ String.toList_ofList (by decide)).trans
  exact reads_valueLine (by decide) (by decide) twelveHours rfl rfl rfl

theorem reads_logLines (s : Settings) :
    Reads { entries := s.document.take 3,
            marks := { opened := [["display".toList], ["generation".toList]] },
            heading := ["display".toList] } (logLines s)
      { entries := s.document,
        marks := { opened := [["log".toList], ["display".toList], ["generation".toList]] },
        heading := ["log".toList] } := by
  have journal := writes_flagText s.journal
  apply (reads_blank _).trans
  apply (reads_heading (by decide) (by decide) rfl rfl).trans
  apply (reads_remark _ String.toList_ofList (by decide)).trans
  apply (reads_remark _ String.toList_ofList (by decide)).trans
  exact reads_valueLine (by decide) (by decide) journal rfl rfl rfl

theorem field_eq {α : Type} {t : Table} {name place : Text} {read : Value → SettingsProblem.Checked α}
    {default a : α} {v : Value} (found : t.get? name = some v) (given : read v = .ok a) :
    field t name place read default = (a, []) := by
  rw [field, found]
  dsimp only
  rw [given]

theorem positive_integer {n : Nat} (h : 1 ≤ n) : SettingsProblem.positive (.integer n) = .ok ⟨n, h⟩ :=
  dif_pos h

theorem languageOf_code (l : Language) : SettingsProblem.languageOf (.text l.code) = .ok l := by
  cases l with
  | chinese => rfl
  | english => rfl

/-- The values of the document are the settings they were taken from. -/
theorem ofTable_document (s : Settings) : ofTable s.document = .ok s := by
  have title : s.document.get? "title".toList = some (.text s.title) := rfl
  have generation : s.document.get? "generation".toList = some (.table s.generationTable) := rfl
  have most : s.generationTable.get? "max_instances".toList = some (.integer s.maxInstances) := rfl
  have query : s.generationTable.get? "query_limit".toList = some (.integer s.queryLimit) := rfl
  have horizon : s.generationTable.get? "horizon_years".toList = some (.integer s.horizonYears) := rfl
  have display : s.document.get? "display".toList = some (.table s.displayTable) := rfl
  have language : s.displayTable.get? "lang".toList = some (.text s.language.code) := rfl
  have twelveHours : s.displayTable.get? "ampm".toList = some (.flag s.twelveHours) := rfl
  have log : s.document.get? "log".toList = some (.table s.logTable) := rfl
  have journal : s.logTable.get? "enabled".toList = some (.flag s.journal) := rfl
  have text : SettingsProblem.plainText (.text s.title) = .ok s.title := rfl
  have table : ∀ t, SettingsProblem.table (.table t) = .ok t := fun _ => rfl
  have flag : ∀ b, SettingsProblem.flag (.flag b) = .ok b := fun _ => rfl
  unfold ofTable
  rw [field_eq title text, field_eq generation (table _)]
  dsimp only
  rw [field_eq most (positive_integer s.maxInstances_pos),
    field_eq query (positive_integer s.queryLimit_pos),
    field_eq horizon (positive_integer s.horizonYears_pos), field_eq display (table _)]
  dsimp only
  rw [field_eq language (languageOf_code s.language), field_eq twelveHours (flag _),
    field_eq log (table _)]
  dsimp only
  rw [field_eq journal (flag _)]
  rfl

/-! What stands behind the title. -/

/-- The document from the line end behind the title on. -/
def tail (s : Settings) : Text :=
  opening ++ decimal s.maxInstances ++ beforeQueryLimit ++ decimal s.queryLimit ++ beforeHorizon
    ++ decimal s.horizonYears ++ beforeLanguage ++ s.language.code ++ beforeTwelveHours
    ++ flagText s.twelveHours ++ beforeJournal ++ flagText s.journal ++ ['\n']

theorem shown_eq (s : Settings) : s.shown = "title = \"".toList ++ (s.title ++ '"' :: s.tail) := by
  unfold shown
  generalize "title = \"".toList = front
  simp only [tail, List.append_assoc, List.cons_append]

theorem count_decimal (sign : c.isDigit = false) (n : Nat) : (decimal n).count c = 0 :=
  List.count_eq_zero.mpr (not_mem_decimal sign n)

/-- The parts of the tail that are the same for all settings. -/
def fixedTail : Text :=
  opening ++ beforeQueryLimit ++ beforeHorizon ++ beforeLanguage ++ beforeTwelveHours
    ++ beforeJournal ++ ['\n']

/-- The settings do not add to the count of a character that is in none of their values. -/
theorem count_tail (sign : c.isDigit = false) (code : ∀ l : Language, c ∉ l.code)
    (flag : ∀ b, c ∉ flagText b) (s : Settings) : s.tail.count c = fixedTail.count c := by
  have language := List.count_eq_zero.mpr (code s.language)
  have twelveHours := List.count_eq_zero.mpr (flag s.twelveHours)
  have journal := List.count_eq_zero.mpr (flag s.journal)
  simp only [tail, fixedTail, List.count_append, count_decimal sign, language, twelveHours, journal,
    Nat.add_zero]

/-- Two quotes enclose the language, and there is no other. -/
theorem count_fixedTail : fixedTail.count '\r' = 0 ∧ fixedTail.count '"' = 2 := by
  unfold fixedTail opening beforeQueryLimit beforeHorizon beforeLanguage beforeTwelveHours
    beforeJournal
  repeat rw [String.toList_ofList]
  decide +kernel

theorem carriage_not_mem_tail (s : Settings) : '\r' ∉ s.tail := by
  have code : ∀ l : Language, '\r' ∉ l.code := by rintro ⟨⟩ <;> decide
  rw [← List.count_eq_zero, count_tail (by decide) code (by decide)]
  exact count_fixedTail.1

theorem count_quote_tail (s : Settings) : s.tail.count '"' = 2 := by
  have code : ∀ l : Language, '"' ∉ l.code := by rintro ⟨⟩ <;> decide
  rw [count_tail (by decide) code (by decide)]
  exact count_fixedTail.2

theorem carriage_not_mem_shown (plain : IsPlain s.title) : '\r' ∉ s.shown := by
  rw [shown_eq, List.mem_append, List.mem_append, List.mem_cons]
  rintro (front | title | quote | behind)
  · exact absurd front (by decide)
  · exact absurd (plain '\r' title).2.2 (by decide)
  · exact absurd quote (by decide)
  · exact carriage_not_mem_tail s behind

/-- What settings are written as is read back as the same settings. -/
theorem read_shown (plain : IsPlain s.title) (short : s.IsShort) :
    Document.read s.shown = .ok s.document := by
  have feeds : Text.replace ['\r', '\n'] ['\n'] s.shown = s.shown := by
    rw [replace_eq_lineFeeds, lineFeeds_eq_self (carriage_not_mem_shown plain)]
  rw [shown_eq_lines] at feeds ⊢
  exact read_of_reads ((reads_titleLine plain).trans ((reads_generationLines short).trans
    ((reads_displayLines s).trans (reads_logLines s)))) feeds

theorem ofText_shown (plain : IsPlain s.title) (short : s.IsShort) :
    ofText s.shown = .ok (some s) := by
  rw [ofText, read_shown plain short]
  dsimp only
  rw [ofTable_document]
  rfl

/-! The file of a home. -/

/-- A file that holds the document of settings is loaded as they are and stays as it is. -/
theorem load_shown (plain : IsPlain s.title) (short : s.IsShort) :
    load (some s.shown) = .ok ⟨s, s.shown, []⟩ := by
  have feeds := withLineFeeds_eq_self (carriage_not_mem_shown plain)
  unfold load
  dsimp only
  rw [ofText_shown plain short]
  dsimp only [Option.getD_some]
  rw [write_eq_ok.mpr ⟨short, rfl⟩]
  simp only [Except.map, feeds, if_true, Option.isNone_some, Bool.false_eq_true, if_false,
    List.append_nil]

/-- Settings are written as a document that is read as the same settings. A home whose file it is
loads them, reports nothing and keeps its file. -/
theorem load_of_write (plain : IsPlain s.title) (short : s.IsShort) :
    ∃ t, s.write = .ok t ∧ ofText t = .ok (some s) ∧ ∀ w : Workspace, w.file = some t →
      w.load = .ok ({ w with hasFolder := true, kept := some s }, s, []) := by
  refine ⟨s.shown, write_eq_ok.mpr ⟨short, rfl⟩, ofText_shown plain short, ?_⟩
  intro w held
  rw [Workspace.load, held, load_shown plain short]
  have kept : w.file = some s.shown := held
  simp only [Except.map, ← kept]

/-- Settings with a title in two scripts, and with a number of nineteen digits. -/
def bilingual : Settings where
  title := "Zeitplan 日程 [1] # 'a' {{ b }}".toList
  maxInstances := 9223372036854775807
  queryLimit := 1
  horizonYears := 8000
  language := .english
  twelveHours := true
  journal := false

theorem load_of_write_bilingual :
    IsPlain bilingual.title ∧ bilingual.IsShort
      ∧ ∃ t, bilingual.write = .ok t ∧ ofText t = .ok (some bilingual)
        ∧ ∀ w : Workspace, w.file = some t →
          w.load = .ok ({ w with hasFolder := true, kept := some bilingual }, bilingual, []) := by
  have plain : IsPlain bilingual.title := by decide
  have short : bilingual.IsShort :=
    ⟨Integer.isShort_of_fitsWord (by decide +kernel), Integer.isShort_of_fitsWord (by decide +kernel),
      Integer.isShort_of_fitsWord (by decide +kernel)⟩
  exact ⟨plain, short, load_of_write plain short⟩

end Recurrence.Settings
