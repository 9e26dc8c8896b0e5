import Recurrence.Proofs.Pattern.First
import Recurrence.Proofs.Pattern.Outline
import Recurrence.Proofs.Phrase.Recognition
import Recurrence.Rule.Description

/-! Descriptions that are phrases themselves. A description with an interval is one text for each
number, so which entries of the table pass it over is decided on its outline; the entry that takes
it keeps the digits of the interval, which read back. -/

namespace Recurrence

theorem isDigit_of_ascii {c : Char} (digit : c.isDigit = true) : isDigit c = true := by
  rw [isDigit, digitValue?_of_isDigit digit]
  rfl

/-- The digits of numerals as they are written. -/
def digitSigns : Text := "0123456789".toList

theorem mem_digitSigns {c : Char} (digit : c.isDigit = true) : c ∈ digitSigns := by
  have signs : ∀ n ≤ 57, 48 ≤ n → Char.ofNat n ∈ digitSigns := by decide
  rw [← Char.ofNat_toNat c]
  exact signs c.toNat (digit_bounds digit).2 (digit_bounds digit).1

theorem Integer.isDigit_of_mem_decimalInt {n : Int} (natural : 0 ≤ n) :
    ∀ c ∈ decimalInt n, c.isDigit = true := by
  obtain ⟨k, rfl⟩ := Int.eq_ofNat_of_zero_le natural
  exact fun c member => isDigit_of_mem_decimal member

theorem Integer.decimalInt_ne_nil (n : Int) : decimalInt n ≠ [] := by
  cases n with
  | ofNat k => exact decimal_ne_nil k
  | negSucc k => exact List.cons_ne_nil _ _

namespace Phrase

open Pattern

variable {t digits : Text} {o : List Piece} {n : Int} {frequency : Frequency}

/-- Entries that cannot be in a text are passed over. -/
theorem ruleFrom_drop {entries : List Entry} (k : Nat) (fits : Fits o t)
    (never : ∀ e ∈ entries.take k, e.pattern.mayBeIn o = false) :
    ruleFrom entries t = ruleFrom (entries.drop k) t := by
  induction entries generalizing k with
  | nil => rw [List.drop_nil]
  | cons e entries ih =>
      cases k with
      | zero => rfl
      | succ k =>
          obtain ⟨here, later⟩ := List.forall_mem_cons.mp never
          have absent : e.pattern.find? t = none := search_eq_none fits here none
          rw [ruleFrom, absent]
          exact ih k later

theorem head?_numeral {before : Option Char} {rest : Text} {groups : List (Nat × Text × Text)}
    (index : Nat) (nonempty : digits ≠ []) (all : ∀ c ∈ digits, isDigit c = true)
    (stop : ∀ c ∈ rest.head?, isDigit c = false) :
    ((numeral index).outcomes ⟨before, digits ++ rest, groups⟩).head?
      = some ⟨digits.getLast?.or before, rest, (index, digits ++ rest, rest) :: groups⟩ :=
  head?_group (head?_choice (head?_oneOrMore nonempty all stop)) index

/-- The text of a group that was kept at last. -/
theorem group?_kept {before : Option Char} {place rest : Text} {groups : List (Nat × Text × Text)}
    {index : Nat} :
    Place.group? ⟨before, place, (index, t ++ rest, rest) :: groups⟩ index = some t := by
  rw [Place.group?, List.find?_cons, beq_self_eq_true]
  simp

/-- A Chinese phrase of a numeral and a unit is taken whole, and the numeral is kept. -/
theorem find?_chinese {tail : List Pattern} {q : Pattern} {unit : Char} (nonempty : digits ≠ [])
    (all : ∀ c ∈ digits, isDigit c = true) (other : isDigit unit = false)
    (takes : Takes (sequence tail) [unit]) :
    ∃ place, (choice [sequence (word "每" :: numeral 1 :: tail), q]).find?
        ('每' :: (digits ++ [unit])) = some place ∧ firstGroup place = digits := by
  have every : Takes (word "每") ['每'] := takes_literal (by decide +kernel)
  have stop : ∀ c ∈ [unit].head?, isDigit c = false := by
    rintro c ⟨⟩
    exact other
  have number := @head?_numeral digits (some '每') [unit] [] 1 nonempty all stop
  have behind := takes (digits.getLast?.or (some '每')) [] [(1, digits ++ [unit], [unit])]
  have whole := head?_seq (every none (digits ++ [unit]) []) (head?_seq number behind)
  exact ⟨_, find?_of_head? (head?_choice whole), firstGroup_of_group?_one group?_kept nonempty⟩

/-- The first word of English phrases, as descriptions write it. -/
def every : Text := ['E', 'v', 'e', 'r', 'y']

/-- The unit of an interval beyond one. -/
def units (frequency : Frequency) : Text := frequency.englishUnit ++ ['s']

/-- One blank before something else. -/
theorem head?_blank {before : Option Char} {rest : Text} {groups : List (Nat × Text × Text)}
    (printing : ∀ c ∈ rest.head?, isBlank c = false) :
    ((oneOrMore isBlank).outcomes ⟨before, [' '] ++ rest, groups⟩).head?
      = some ⟨some ' ', rest, groups⟩ :=
  head?_oneOrMore (t := [' ']) (by decide) (by decide +kernel) printing

/-- An English phrase of a numeral and a unit is taken whole, with the numeral as a group. -/
theorem head?_english {unit : Text} (nonempty : digits ≠ []) (all : ∀ c ∈ digits, isDigit c = true)
    (takes : Takes (literal unit) unit) (printing : unit.head?.any isBlank = false)
    (ending : unit.getLast?.any isWordChar = true) :
    ((words [word "every", numeral 2, literal unit]).outcomes
        ⟨none, every ++ ([' '] ++ (digits ++ ([' '] ++ unit))), []⟩).head?
      = some ⟨unit.getLast?.or (some ' '), [], [(2, digits ++ ([' '] ++ unit), [' '] ++ unit)]⟩ := by
  let rest := [' '] ++ unit
  let behind := [' '] ++ (digits ++ rest)
  let kept := (2, digits ++ rest, rest)
  have opening : (boundary.outcomes ⟨none, every ++ behind, []⟩).head?
      = some ⟨none, every ++ behind, []⟩ := by
    apply head?_boundary
    change isWordChar 'E' = true
    decide +kernel
  have first : ((word "every").outcomes ⟨none, every ++ behind, []⟩).head?
      = some ⟨some 'y', behind, []⟩ :=
    takes_literal (t := every) (by decide +kernel) none behind []
  have blank : ((oneOrMore isBlank).outcomes ⟨some 'y', behind, []⟩).head?
      = some ⟨some ' ', digits ++ rest, []⟩ := by
    apply head?_blank
    intro c leading
    cases digits with
    | nil => exact absurd rfl nonempty
    | cons d ds =>
        obtain rfl : d = c := Option.some.inj leading
        exact isBlank_of_isAnyDigit (all d List.mem_cons_self)
  have number : ((numeral 2).outcomes ⟨some ' ', digits ++ rest, []⟩).head?
      = some ⟨digits.getLast?.or (some ' '), rest, [kept]⟩ := by
    apply head?_numeral 2 nonempty all
    rintro c ⟨⟩
    decide +kernel
  have blank' : ((oneOrMore isBlank).outcomes ⟨digits.getLast?.or (some ' '), rest, [kept]⟩).head?
      = some ⟨some ' ', unit, [kept]⟩ := by
    apply head?_blank
    intro c leading
    rwa [leading] at printing
  have last : ((sequence [literal unit]).outcomes ⟨some ' ', unit, [kept]⟩).head?
      = some ⟨unit.getLast?.or (some ' '), [], [kept]⟩ := by
    have end_ := takes (some ' ') [] [kept]
    rw [List.append_nil] at end_
    exact head?_seq end_ rfl
  have closing : ((sequence [boundary]).outcomes ⟨unit.getLast?.or (some ' '), [], [kept]⟩).head?
      = some ⟨unit.getLast?.or (some ' '), [], [kept]⟩ := by
    apply head?_seq _ rfl
    apply head?_boundary
    obtain ⟨c, found, letter⟩ := (Option.any_eq_true _ _).mp ending
    rw [found]
    exact congrArg (· != false) letter
  have inside := head?_seq first (head?_seq blank (head?_seq number (head?_seq blank' last)))
  exact head?_seq opening (head?_seq inside closing)

/-- The Chinese phrase, which is tried before, begins otherwise. -/
theorem find?_english {chinese : List Pattern} {unit : Text} (nonempty : digits ≠ [])
    (all : ∀ c ∈ digits, isDigit c = true) (takes : Takes (literal unit) unit)
    (printing : unit.head?.any isBlank = false) (ending : unit.getLast?.any isWordChar = true) :
    ∃ place, (choice [sequence (word "每" :: chinese),
          words [word "every", numeral 2, literal unit]]).find?
        (every ++ ([' '] ++ (digits ++ ([' '] ++ unit)))) = some place
      ∧ firstGroup place = digits := by
  have other : Refuses (sequence (word "每" :: chinese)) 'E' :=
    (refuses_letter (by decide +kernel)).sequence
  let place : Place :=
    ⟨unit.getLast?.or (some ' '), [], [(2, digits ++ ([' '] ++ unit), [' '] ++ unit)]⟩
  have first : ((choice [sequence (word "每" :: chinese),
      words [word "every", numeral 2, literal unit]]).outcomes
        ⟨none, every ++ ([' '] ++ (digits ++ ([' '] ++ unit))), []⟩).head? = some place :=
    other.head?_choice (head?_english nonempty all takes printing ending)
  have absent : place.group? 1 = none := rfl
  have held : place.group? 2 = some digits := group?_kept
  exact ⟨place, find?_of_head? first, firstGroup_of_group?_two absent held⟩

/-! What descriptions say. -/

theorem step_counted (more : 2 ≤ n) :
    Rule.step { frequency := some frequency, interval := some n } = n := if_neg (by omega)

theorem chinese_counted (more : 2 ≤ n) (short : Integer.IsShort n) :
    Rule.chinese { frequency := some frequency, interval := some n }
      = .ok ('每' :: (decimalInt n ++ frequency.chineseUnit)) := by
  have other : ¬ n = 1 := by omega
  rw [Rule.chinese, step_counted more, if_neg other, Integer.write_of_isShort short, ok_bind]
  cases frequency
  all_goals
    change Except.ok (['每'] ++ decimalInt n ++ _ ++ [] ++ []) = _
    rw [List.append_nil, List.append_nil]
    rfl

theorem english_counted (more : 2 ≤ n) (short : Integer.IsShort n) :
    Rule.english { frequency := some frequency, interval := some n }
      = .ok (every ++ ([' '] ++ (decimalInt n ++ ([' '] ++ units frequency)))) := by
  have other : ¬ n = 1 := by omega
  rw [Rule.english, step_counted more]
  dsimp only
  rw [if_neg other, Integer.write_of_isShort short]
  cases frequency
  all_goals
    change Except.ok (every ++ [' '] ++ decimalInt n ++ ([' '] ++ _) ++ ['s'] ++ [] ++ []) = _
    simp only [List.append_assoc, List.append_nil]
    rfl

/-! What a description with an interval gives back. -/

def numeralOutline : List Piece := [.one digitSigns, .run digitSigns]

def chineseOutline (unit : Text) : List Piece :=
  spelled ['每'] ++ (numeralOutline ++ spelled unit)

def englishOutline (unit : Text) : List Piece :=
  spelled every ++ (spelled [' '] ++ (numeralOutline ++ (spelled [' '] ++ spelled unit)))

theorem fits_decimalInt (natural : 0 ≤ n) (fits : Fits o t) :
    Fits (numeralOutline ++ o) (decimalInt n ++ t) := by
  have signs := fun c member => mem_digitSigns (Integer.isDigit_of_mem_decimalInt natural c member)
  cases written : decimalInt n with
  | nil => exact absurd written (Integer.decimalInt_ne_nil n)
  | cons c r =>
      rw [written] at signs
      obtain ⟨first, others⟩ := List.forall_mem_cons.mp signs
      exact .one first (fits_run others fits)

/-- An entry that is reached and that keeps the numeral gives the interval. -/
theorem recognize_counted {entry : Entry} {later : List Entry} (k : Nat) (fits : Fits o t)
    (never : ∀ e ∈ table.take k, e.pattern.mayBeIn o = false) (cut : table.drop k = entry :: later)
    (rule : entry.rule = everyFew frequency) (natural : 0 ≤ n) (short : Integer.IsShort n)
    (found : ∃ place, entry.pattern.find? t = some place ∧ firstGroup place = decimalInt n) :
    recognize t = .ok (some { frequency := some frequency, interval := some n }) := by
  obtain ⟨place, first, kept⟩ := found
  have digits := fun c member => isDigit_of_ascii (Integer.isDigit_of_mem_decimalInt natural c member)
  have number : number? (decimalInt n) = .ok (some n) := by
    rw [number?_of_isDigit digits (Integer.decimalInt_ne_nil n), Integer.read_decimalInt short]
    rfl
  rw [recognize, ruleFrom_drop k fits never, cut, ruleFrom, first]
  dsimp only
  rw [rule, everyFew, kept, number]
  rfl

theorem recognize_chinese {tail : List Pattern} {q : Pattern} {unit : Char} {later : List Entry}
    (k : Nat)
    (cut : table.drop k
      = ⟨choice [sequence (word "每" :: numeral 1 :: tail), q], everyFew frequency⟩ :: later)
    (never : ∀ e ∈ table.take k, e.pattern.mayBeIn (chineseOutline [unit]) = false)
    (other : isDigit unit = false) (takes : Takes (sequence tail) [unit]) (natural : 0 ≤ n)
    (short : Integer.IsShort n) :
    recognize ('每' :: (decimalInt n ++ [unit]))
      = .ok (some { frequency := some frequency, interval := some n }) := by
  have digits := fun c member => isDigit_of_ascii (Integer.isDigit_of_mem_decimalInt natural c member)
  have fits := fits_spelled ['每'] (fits_decimalInt natural (fits_self [unit]))
  exact recognize_counted k fits never cut rfl natural short
    (find?_chinese (Integer.decimalInt_ne_nil n) digits other takes)

theorem recognize_english {chinese : List Pattern} {later : List Entry} (k : Nat)
    (cut : table.drop k
      = ⟨choice [sequence (word "每" :: chinese),
          words [word "every", numeral 2, literal (units frequency)]], everyFew frequency⟩ :: later)
    (never : ∀ e ∈ table.take k, e.pattern.mayBeIn (englishOutline (units frequency)) = false)
    (natural : 0 ≤ n) (short : Integer.IsShort n) :
    recognize (every ++ ([' '] ++ (decimalInt n ++ ([' '] ++ units frequency))))
      = .ok (some { frequency := some frequency, interval := some n }) := by
  have small : (units frequency).map foldChar = units frequency := by
    cases frequency <;> decide +kernel
  have printing : (units frequency).head?.any isBlank = false := by
    cases frequency <;> decide +kernel
  have ending : (units frequency).getLast?.any isWordChar = true := by
    cases frequency <;> decide +kernel
  have digits := fun c member => isDigit_of_ascii (Integer.isDigit_of_mem_decimalInt natural c member)
  have fits := fits_spelled every (fits_spelled [' '] (fits_decimalInt natural
    (fits_spelled [' '] (fits_self (units frequency)))))
  exact recognize_counted k fits never cut rfl natural short
    (find?_english (Integer.decimalInt_ne_nil n) digits (takes_literal small) printing ending)

/-- The rules that are told by a phrase: an interval of days, weeks or months, one day of every
month, and every year. -/
inductive IsTold : Rule → Prop
  | often {frequency : Frequency} {n : Int} :
      frequency ≠ .yearly → 1 ≤ n → Integer.IsShort n →
      IsTold { frequency := some frequency, interval := some n }
  | onMonthDay {day : Int} :
      1 ≤ day → day ≤ 31 → IsTold { frequency := some .monthly, byMonthDay := [day] }
  | yearly (days : List Int) : IsTold { frequency := some .yearly, byMonthDay := days }

theorem exists_described {r s : Rule} {language : Language}
    (whole : (r.describe language >>= recognize).toOption = some (some s)) :
    ∃ t, r.describe language = .ok t ∧ recognize t = .ok (some s) :=
  bind_eq_ok.mp (eq_ok_of_toOption whole)

/-- Intervals beyond one. -/
theorem exists_described_counted (counted : frequency ≠ .yearly) (more : 2 ≤ n)
    (short : Integer.IsShort n) (language : Language) :
    ∃ t, Rule.describe language { frequency := some frequency, interval := some n } = .ok t
      ∧ recognize t = .ok (some { frequency := some frequency, interval := some n }) := by
  have natural : 0 ≤ n := by omega
  cases language with
  | chinese =>
      refine ⟨_, chinese_counted more short, ?_⟩
      cases frequency with
      | daily =>
          apply recognize_chinese 1 rfl (by decide +kernel) (by decide +kernel) _ natural short
          exact (takes_char (by decide +kernel)).sequence takes_empty
      | weekly =>
          apply recognize_chinese 3 rfl (by decide +kernel) (by decide +kernel) _ natural short
          apply (refuses_letter (by decide +kernel)).optional_seq
          exact (takes_letter (by decide +kernel)).choice.sequence takes_empty
      | monthly =>
          apply recognize_chinese 8 rfl (by decide +kernel) (by decide +kernel) _ natural short
          apply (refuses_letter (by decide +kernel)).optional_seq
          exact (takes_letter (by decide +kernel)).sequence takes_empty
      | yearly => exact absurd rfl counted
  | english =>
      refine ⟨_, english_counted more short, ?_⟩
      cases frequency with
      | daily =>
          exact recognize_english 1 rfl (by decide +kernel) natural short
      | weekly =>
          exact recognize_english 3 rfl (by decide +kernel) natural short
      | monthly =>
          exact recognize_english 8 rfl (by decide +kernel) natural short
      | yearly => exact absurd rfl counted

/-- The signs of a phrase for one day of every month. -/
def daySigns : Language → Text
  | .chinese => "每月号".toList ++ digitSigns
  | .english => "Monthly on the strd".toList ++ digitSigns

/-- No earlier entry is made of these signs, and the later ones are tried day by day. -/
theorem exists_described_onMonthDay {day : Int} (low : 1 ≤ day) (high : day ≤ 31)
    (language : Language) :
    ∃ t, Rule.describe language { frequency := some .monthly, byMonthDay := [day] } = .ok t
      ∧ recognize t = .ok (some { frequency := some .monthly, byMonthDay := [day] }) := by
  have never : ∀ language ∈ [Language.chinese, .english], ∀ e ∈ table.take 7,
      e.pattern.mayBeIn [.run (daySigns language)] = false := by decide +kernel
  have each : ∀ k ∈ List.range 31, ∀ language ∈ [Language.chinese, .english],
      let r : Rule := { frequency := some .monthly, byMonthDay := [((k + 1 : Nat) : Int)] }
      (r.describe language).toOption.any (fun t => t.all (daySigns language).contains) = true
        ∧ (r.describe language >>= ruleFrom (table.drop 7)).toOption = some (some r) := by
    decide +kernel
  obtain ⟨k, rfl⟩ : ∃ k : Nat, day = (k + 1 : Nat) := ⟨(day - 1).toNat, by omega⟩
  have listed : language ∈ [Language.chinese, .english] := by cases language <;> decide
  obtain ⟨signs, given⟩ := each k (List.mem_range.mpr (by omega)) language listed
  obtain ⟨t, said, recognized⟩ := bind_eq_ok.mp (eq_ok_of_toOption given)
  rw [said] at signs
  have inside : ∀ c ∈ t, c ∈ daySigns language :=
    fun c member => List.contains_iff_mem.mp (List.all_eq_true.mp signs c member)
  have fits : Fits [.run (daySigns language)] (t ++ []) := fits_run inside .nil
  rw [List.append_nil] at fits
  refine ⟨t, said, ?_⟩
  rw [recognize, ruleFrom_drop 7 fits (never language listed)]
  exact recognized

/-- What a description tells of a rule: of a yearly one no days of the month. -/
def spoken (r : Rule) : Rule :=
  if r.frequency = some .yearly then { r with byMonthDay := [] } else r

/-- The description of a rule that is told by a phrase is recognized as the rule, in both languages;
only the days of the month of a yearly rule are lost. -/
theorem recognize_describe {r : Rule} (told : IsTold r) (language : Language) :
    ∃ t, r.describe language = .ok t ∧ recognize t = .ok (some (spoken r)) := by
  cases told with
  | @often frequency n counted positive short =>
      have same : spoken { frequency := some frequency, interval := some n }
          = { frequency := some frequency, interval := some n } :=
        if_neg fun yearly => counted (Option.some.inj yearly)
      rw [same]
      by_cases one : n = 1
      · subst one
        apply exists_described
        cases language <;> cases frequency <;> first | exact absurd rfl counted | decide +kernel
      · exact exists_described_counted counted (by omega) short language
  | onMonthDay low high => exact exists_described_onMonthDay low high language
  | yearly days =>
      have undated : Rule.describe language { frequency := some .yearly, byMonthDay := days }
          = Rule.describe language { frequency := some .yearly } := by
        cases language <;> rfl
      have dropped : spoken { frequency := some .yearly, byMonthDay := days }
          = { frequency := some .yearly } := if_pos rfl
      apply exists_described
      rw [undated, dropped]
      cases language <;> decide +kernel

/-- Every twelve weeks. -/
theorem recognize_describe_everyTwelveWeeks :
    let r : Rule := { frequency := some .weekly, interval := some 12 }
    IsTold r ∧ (r.describe .english).toOption = some "Every 12 weeks".toList ∧ spoken r = r
      ∧ ∃ t, r.describe .english = .ok t ∧ recognize t = .ok (some (spoken r)) := by
  intro r
  have told : IsTold r := .often (by decide) (by decide) (Integer.isShort_of_fitsWord (by decide))
  exact ⟨told, by decide +kernel, rfl, recognize_describe told .english⟩

/-- The fifth of a month is not told of a yearly rule, so it does not come back. -/
theorem recognize_describe_yearly :
    let r : Rule := { frequency := some .yearly, byMonthDay := [5] }
    IsTold r ∧ (∃ t, r.describe .chinese = .ok t
      ∧ recognize t = .ok (some { frequency := some .yearly }))
      ∧ ¬ ∃ t, r.describe .chinese = .ok t ∧ recognize t = .ok (some r) := by
  intro r
  have given : (r.describe .chinese >>= recognize).toOption
      = some (some { frequency := some .yearly }) := by decide +kernel
  obtain ⟨t, said, recognized⟩ := exists_described given
  refine ⟨.yearly [5], ⟨t, said, recognized⟩, ?_⟩
  rintro ⟨u, again, whole⟩
  obtain rfl : t = u := Except.ok.inj (said.symm.trans again)
  have same := Option.some.inj (Except.ok.inj (recognized.symm.trans whole))
  exact absurd same (by decide)

end Phrase

end Recurrence
