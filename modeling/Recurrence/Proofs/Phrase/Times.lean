import Mathlib.Data.List.TakeWhile
import Recurrence.Proofs.Phrase.Described

/-! So many times each week or month. Such a phrase is meant to give the plain rule, whatever the
number. The entries look ahead for the sign that makes a number of times, but not always behind the
whole number: the weekly ones look one character ahead, and the monthly ones stop in front of the
sign 两, which is no sign of a day. -/

namespace Recurrence.Phrase

open Pattern

variable {n t unit : Text} {c d : Char} {before : Option Char}
  {groups : List (Nat × Text × Text)}

/-- A number as phrases write it: digits alone, or Chinese signs alone. -/
structure IsCount (n : Text) : Prop where
  nonempty : n ≠ []
  signs : (∀ c ∈ n, c.isDigit = true) ∨ ∀ c ∈ n, c ∈ numeralSigns

def weekNames : List Text := ["周".toList, "星期".toList]

def monthNames : List Text := ["月".toList, "个月".toList]

/-- So many times each unit. -/
def timesEach (unit n : Text) : Text := '每' :: unit ++ (n ++ ['次'])

/-- The day that is read in a number of times a week: its first sign, unless it is the only one. -/
def strayWeekdays : Text → List Text
  | sign :: _ :: _ => ((chineseWeekday? [sign]).map Weekday.code).toList
  | _ => []

/-- The day that is read in a number of times a month: its signs up to the first one that no day
has, if there is one. -/
def strayMonthDays (n : Text) : List Int :=
  let day := n.takeWhile isDayNumeral
  if day = n then [] else (number? day).toOption.join.toList

/-! The signs of a number. -/

def countSigns : Text := digitSigns ++ numeralSigns

theorem IsCount.mem_countSigns (count : IsCount n) : ∀ c ∈ n, c ∈ countSigns := by
  intro c member
  rcases count.signs with digits | signs
  · exact List.mem_append_left _ (mem_digitSigns (digits c member))
  · exact List.mem_append_right _ (signs c member)

/-- A number with one digit has nothing but digits. -/
theorem IsCount.isDigit (count : IsCount n) (one : ∃ c ∈ n, Recurrence.isDigit c = true) :
    ∀ c ∈ n, c ∈ digitSigns := by
  have other : ∀ c ∈ numeralSigns, Recurrence.isDigit c = false := by decide
  rcases count.signs with digits | signs
  · exact fun c member => mem_digitSigns (digits c member)
  · obtain ⟨c, member, digit⟩ := one
    exact absurd digit (other c (signs c member) ▸ Bool.false_ne_true)

/-- A number with one Chinese sign has nothing else. -/
theorem IsCount.chinese (count : IsCount n) (one : ∃ c ∈ n, c ∈ numeralSigns) :
    ∀ c ∈ n, c ∈ numeralSigns := by
  have other : ∀ c ∈ numeralSigns, c.isDigit = false := by decide
  rcases count.signs with digits | signs
  · obtain ⟨c, member, sign⟩ := one
    exact absurd (digits c member) (other c sign ▸ Bool.false_ne_true)
  · exact signs

theorem isDayNumeral_of_ne (sign : c ∈ numeralSigns) (other : c ≠ '两') : isDayNumeral c = true := by
  have days : ∀ d ∈ numeralSigns, d = '两' ∨ isDayNumeral d = true := by decide
  exact (days c sign).resolve_left other

theorem mem_numeralSigns_of_isDayNumeral (day : isDayNumeral c = true) :
    c ∈ numeralSigns ∧ c ≠ '两' := by
  have signs : ∀ d ∈ "零一二三四五六七八九十".toList, d ∈ numeralSigns ∧ d ≠ '两' := by
    decide +kernel
  exact signs c (List.contains_iff_mem.mp day)

/-! The day in a number of times a month. -/

/-- The signs in front of the first 两 are a day of their own. -/
theorem exists_day (count : IsCount n) (two : '两' ∈ n) (other : n.head? ≠ some '两') :
    ∃ day r k, n = day ++ '两' :: r ∧ day ≠ [] ∧ (∀ c ∈ day, isDayNumeral c = true)
      ∧ number? day = .ok (some k) ∧ strayMonthDays n = [k] := by
  have signs := count.chinese ⟨'两', two, by decide⟩
  obtain ⟨day, r, rfl, before⟩ := List.eq_append_cons_of_mem two
  have nonempty : day ≠ [] := by
    rintro rfl
    exact other rfl
  have numerals : ∀ c ∈ day, isDayNumeral c = true := fun c member =>
    isDayNumeral_of_ne (signs c (List.mem_append_left _ member)) fun same => before (same ▸ member)
  have chinese : ∀ c ∈ day, isChineseNumeral c = true := by
    have all : ∀ c ∈ numeralSigns, isChineseNumeral c = true := by decide
    exact fun c member => all c (signs c (List.mem_append_left _ member))
  obtain ⟨k, worth⟩ := exists_number?_of_isChineseNumeral chinese nonempty
  have front : (day ++ '两' :: r).takeWhile isDayNumeral = day := by
    rw [List.takeWhile_append_of_pos numerals, List.takeWhile_cons_of_neg (by decide),
      List.append_nil]
  have shorter : day ≠ day ++ '两' :: r := by simp
  refine ⟨day, r, k, rfl, nonempty, numerals, worth, ?_⟩
  rw [strayMonthDays, front, if_neg shorter, worth]
  rfl

/-- A number that begins with a sign of a day, and has no 两 behind it, has only such signs. -/
theorem isDayNumeral_of_free {r : Text} (count : IsCount (c :: r))
    (free : '两' ∉ c :: r ∨ (c :: r).head? = some '两') (day : isDayNumeral c = true) :
    ∀ d ∈ c :: r, isDayNumeral d = true := by
  obtain ⟨sign, other⟩ := mem_numeralSigns_of_isDayNumeral day
  have absent : '两' ∉ c :: r := by
    rcases free with absent | leads
    · exact absent
    · exact absurd (Option.some.inj leads) other
  have signs := count.chinese ⟨c, List.mem_cons_self, sign⟩
  exact fun d member => isDayNumeral_of_ne (signs d member) fun same => absent (same ▸ member)

theorem strayMonthDays_eq_nil (count : IsCount n) (free : '两' ∉ n ∨ n.head? = some '两') :
    strayMonthDays n = [] := by
  have none : number? [] = .ok none := by decide
  obtain ⟨c, r, rfl⟩ := List.exists_cons_of_ne_nil count.nonempty
  by_cases day : isDayNumeral c = true
  · have all := List.takeWhile_eq_self_iff.mpr (isDayNumeral_of_free count free day)
    rw [strayMonthDays, all, if_pos rfl]
  · rw [strayMonthDays, List.takeWhile_cons_of_neg day, if_neg (List.cons_ne_nil c r).symm, none]
    rfl

theorem strayMonthDays_eq_nil_iff (count : IsCount n) :
    strayMonthDays n = [] ↔ '两' ∉ n ∨ n.head? = some '两' := by
  refine ⟨fun nothing => ?_, strayMonthDays_eq_nil count⟩
  by_contra dated
  rw [not_or, not_not] at dated
  obtain ⟨day, r, k, -, -, -, -, days⟩ := exists_day count dated.1 dated.2
  rw [days] at nothing
  exact absurd nothing (List.cons_ne_nil k [])

theorem strayWeekdays_eq_nil_iff (count : IsCount n) :
    strayWeekdays n = [] ↔ n.length = 1 ∨ ∀ c ∈ n.head?, c ∉ weekdaySigns := by
  have known : ∀ c ∈ countSigns,
      ((chineseWeekday? [c]).map Weekday.code).toList = [] ↔ c ∉ weekdaySigns := by decide
  have signs := count.mem_countSigns
  match n, count.nonempty with
  | [c], _ => exact iff_of_true rfl (.inl rfl)
  | c :: d :: r, _ =>
      change ((chineseWeekday? [c]).map Weekday.code).toList = [] ↔ _
      rw [known c (signs c List.mem_cons_self)]
      constructor
      · rintro plain
        refine .inr ?_
        rintro _ ⟨⟩
        exact plain
      · rintro (single | plain)
        · cases single
        · exact plain c rfl

/-! What stands around the number. -/

/-- The signs of the Chinese words of such phrases. -/
def wordSigns : Text := "每周星期月个次".toList

theorem sameLetter_wordSigns : ∀ letter ∈ wordSigns, ∀ c ∈ wordSigns ++ countSigns,
    sameLetter letter c = (letter == c) := by decide +kernel

theorem takesOnly_word (signs : ∀ c ∈ t, c ∈ wordSigns) : TakesOnly (literal t) t := by
  apply takesOnly_literal
  unfold SameWord
  rw [List.forall₂_same]
  intro c member
  rw [sameLetter_wordSigns c (signs c member) c (List.mem_append_left _ (signs c member)),
    beq_self_eq_true]

theorem refuses_word (letter : Char) (t : Text)
    (other : letter ∈ wordSigns ∧ c ∈ wordSigns ++ countSigns ∧ letter ≠ c) :
    Refuses (literal (letter :: t)) c := by
  obtain ⟨signs, sign, different⟩ := other
  have unlike : sameLetter letter c = false := by
    rw [sameLetter_wordSigns letter signs c sign]
    exact beq_false_of_ne different
  exact (refuses_char unlike).seq

theorem eq_of_mem_weekNames (known : unit ∈ weekNames) :
    unit = ['周'] ∨ unit = ['星', '期'] := List.mem_pair.mp known

theorem eq_of_mem_monthNames (known : unit ∈ monthNames) :
    unit = ['月'] ∨ unit = ['个', '月'] := List.mem_pair.mp known

theorem takesOnly_week (known : unit ∈ weekNames) :
    TakesOnly (sequence [word "每", week]) ('每' :: unit) := by
  have each : TakesOnly (word "每") ['每'] := takesOnly_word (by decide)
  have one : TakesOnly week unit := by
    rcases eq_of_mem_weekNames known with rfl | rfl
    · have other : Refuses (word "星期") '周' := refuses_word '星' ['期'] (by decide)
      exact (takesOnly_word (by decide)).or_refuses other
    · have other : Refuses (word "周") '星' := refuses_word '周' [] (by decide)
      exact other.or_takesOnly (takesOnly_word (by decide))
  exact each.seq one.alone

theorem takesOnly_month (known : unit ∈ monthNames) :
    TakesOnly (sequence [word "每", measure, word "月"]) ('每' :: unit) := by
  have each : TakesOnly (word "每") ['每'] := takesOnly_word (by decide)
  have last : TakesOnly (word "月") ['月'] := takesOnly_word (by decide)
  have behind : TakesOnly (sequence [measure, word "月"]) unit := by
    rcases eq_of_mem_monthNames known with rfl | rfl
    · have other : Refuses (word "个") '月' := refuses_word '个' [] (by decide)
      exact other.stays_optional.seq_takesOnly last.alone
    · have one : TakesOnly (word "个") ['个'] := takesOnly_word (by decide)
      have other : Refuses (word "月") '个' := refuses_word '月' [] (by decide)
      exact one.optional_seq last.alone other.seq
  exact each.seq behind

/-- Before the number stands a text, behind it the sign for times. -/
def timesOutline (lead : Text) : List Piece :=
  spelled lead ++ (.one countSigns :: .run countSigns :: spelled ['次'])

theorem IsCount.fits (count : IsCount n) (lead : Text) :
    Fits (timesOutline lead) (lead ++ (n ++ ['次'])) := by
  have signs := count.mem_countSigns
  obtain ⟨c, r, rfl⟩ := List.exists_cons_of_ne_nil count.nonempty
  obtain ⟨first, others⟩ := List.forall_mem_cons.mp signs
  exact fits_spelled lead (.one first (fits_run others (fits_self ['次'])))

/-- The place of the number in such a phrase. -/
def numberPlace (unit n : Text) : Place := ⟨('每' :: unit).getLast?.or none, n ++ ['次'], []⟩

/-- Behind a lead that leaves no choice the first form of an entry is found with what it asks for. -/
theorem find?_of_lead {ps qs others : List Pattern} {place : Place}
    (lead : TakesOnly (sequence ps) ('每' :: unit))
    (first : ((sequence qs).outcomes (numberPlace unit n)).head? = some place) :
    (choice (sequence (ps ++ qs) :: others)).find? (timesEach unit n) = some place := by
  have front := lead.outcomes_append qs none (n ++ ['次']) []
  exact find?_of_head? (head?_choice ((congrArg List.head? front).trans first))

/-- An entry that looks ahead is found where it sees nothing. -/
theorem ruleFrom_plain {ps others : List Pattern} {ahead : Pattern} {rule : Rule}
    {later : List Entry} (lead : TakesOnly (sequence ps) ('每' :: unit))
    (absent : ahead.outcomes (numberPlace unit n) = []) :
    ruleFrom (⟨choice (sequence (ps ++ [notAhead ahead]) :: others), plain rule⟩ :: later)
      (timesEach unit n) = .ok (some rule) := by
  have stays : ((sequence [notAhead ahead]).outcomes (numberPlace unit n)).head?
      = some (numberPlace unit n) := by
    apply head?_seq _ rfl
    rw [outcomes_notAhead_of_eq_nil absent]
    rfl
  rw [ruleFrom, find?_of_lead lead stays]
  rfl

/-- It is passed over where it sees something, unless another form of it is in the outline. -/
theorem ruleFrom_ahead {ps : List Pattern} {ahead q : Pattern} {place : Place}
    {rule : Place → Except Fault Rule} {later : List Entry} (count : IsCount n)
    (lead : TakesOnly (sequence ps) ('每' :: unit))
    (seen : (ahead.outcomes (numberPlace unit n)).head? = some place)
    (others : (q.leaves (timesOutline ('每' :: unit))).isEmpty = true)
    (tail : (alt (sequence (ps ++ [notAhead ahead])) q).mayBeIn (timesOutline unit) = false) :
    ruleFrom (⟨alt (sequence (ps ++ [notAhead ahead])) q, rule⟩ :: later) (timesEach unit n)
      = ruleFrom later (timesEach unit n) := by
  have front := lead.outcomes_append [notAhead ahead] none (n ++ ['次']) []
  have blocked : (sequence [notAhead ahead]).outcomes (numberPlace unit n) = [] := by
    change ((notAhead ahead).outcomes _).flatMap _ = []
    rw [outcomes_notAhead_of_head? seen, List.flatMap_nil]
  have absent : q.outcomes ⟨none, timesEach unit n, []⟩ = [] :=
    outcomes_eq_nil (count.fits ('每' :: unit)) others
  have here := List.append_eq_nil_iff.mpr ⟨front.trans blocked, absent⟩
  have none : (alt (sequence (ps ++ [notAhead ahead])) q).find? (timesEach unit n) = none :=
    find?_cons_eq_none here (search_eq_none (count.fits unit) tail (some '每'))
  rw [ruleFrom, none]

/-! The weekly entries. -/

/-- A weekday and no number of times: the plain entry looks for it behind the week. -/
def weekdayAhead : Pattern :=
  sequence [oneOf (weekdaySigns ++ "末".toList), notAhead (word "次")]

theorem takesOnly_times : TakesOnly (word "次") ['次'] := takesOnly_word (by decide)

theorem refuses_times (sign : c ∈ countSigns) : Refuses (word "次") c := by
  have other : '次' ∉ countSigns := by decide
  have different : '次' ≠ c := fun same => other (same ▸ sign)
  exact refuses_word '次' [] ⟨by decide, List.mem_append_right _ sign, different⟩

theorem outcomes_weekdayAhead (count : IsCount n) (plain : strayWeekdays n = []) :
    weekdayAhead.outcomes ⟨before, n ++ ['次'], groups⟩ = [] := by
  have known : ∀ c ∈ countSigns, c ∉ weekdaySigns →
      (weekdaySigns ++ "末".toList).contains c = false := by decide
  have signs := count.mem_countSigns
  have bare := (strayWeekdays_eq_nil_iff count).mp plain
  obtain ⟨c, r, rfl⟩ := List.exists_cons_of_ne_nil count.nonempty
  rcases bare with single | other
  · obtain rfl : r = [] := List.eq_nil_of_length_eq_zero (Nat.succ.inj single)
    have blocked : Refuses (sequence [notAhead (word "次")]) '次' := takesOnly_times.refuses_notAhead.seq
    apply List.flatMap_eq_nil_iff.mpr
    intro b reached
    obtain ⟨⟨d, front, -⟩, -⟩ := of_mem_outcomes_char reached
    exact blocked.outcomes_eq_nil (List.cons.inj front).2.symm
  · have absent := known c (signs c List.mem_cons_self) (other c rfl)
    exact (refuses_char absent).seq before (r ++ ['次']) groups

/-- The sign of a weekday in front of another sign of a number. -/
theorem head?_weekday {p : Pattern} {kept : List (Nat × Text × Text)} (sign : d ∈ countSigns)
    (first : (p.outcomes ⟨before, c :: d :: t, groups⟩).head? = some ⟨some c, d :: t, kept⟩) :
    ((sequence [p, notAhead (word "次")]).outcomes ⟨before, c :: d :: t, groups⟩).head?
      = some ⟨some c, d :: t, kept⟩ :=
  head?_seq first ((refuses_times sign).stays_notAhead.alone.head? (some c) t kept)

theorem exists_weekday (count : IsCount n) (pinned : strayWeekdays n ≠ []) :
    ∃ c d r w, n = c :: d :: r ∧ c ∈ weekdaySigns ∧ d ∈ countSigns ∧ chineseWeekday? [c] = some w := by
  have signs := count.mem_countSigns
  have dated := (strayWeekdays_eq_nil_iff count).not.mp pinned
  match n, count.nonempty with
  | [c], _ => exact absurd rfl pinned
  | c :: d :: r, _ =>
      cases day : chineseWeekday? [c] with
      | none =>
          rw [strayWeekdays, day] at pinned
          exact absurd rfl pinned
      | some w =>
          have sign : c ∈ weekdaySigns := by
            by_contra absent
            refine dated (.inr ?_)
            rintro _ ⟨⟩
            exact absent
          exact ⟨c, d, r, w, rfl, sign, signs d (List.mem_cons_of_mem c List.mem_cons_self), day⟩

theorem ruleFrom_onOneWeekday {r : Text} {w : Weekday} {later : List Entry}
    (known : unit ∈ weekNames) (weekday : c ∈ weekdaySigns) (second : d ∈ countSigns)
    (day : chineseWeekday? [c] = some w) :
    ruleFrom (onOneWeekday :: later) (timesEach unit (c :: d :: r))
      = .ok (some { frequency := some .weekly, byDay := [w.code] }) := by
  have listed : weekdaySigns.contains c = true := List.contains_iff_mem.mpr weekday
  let rest := d :: (r ++ ['次'])
  let place : Place := ⟨some c, rest, [(1, [c] ++ rest, rest)]⟩
  have sign := (takesOnly_char listed).takes.group 1 (('每' :: unit).getLast?.or none) rest []
  have found : onOneWeekday.pattern.find? (timesEach unit (c :: d :: r)) = some place :=
    find?_of_lead (takesOnly_week known) (head?_weekday second sign)
  have kept : place.group? 1 = some [c] := group?_kept
  rw [ruleFrom, found]
  change (onWeekday place).map some = _
  rw [onWeekday, kept]
  dsimp only
  rw [day]
  rfl

theorem recognize_timesEach_week (count : IsCount n) (known : unit ∈ weekNames) :
    recognize (timesEach unit n)
      = .ok (some { frequency := some .weekly, byDay := strayWeekdays n }) := by
  have never : ∀ unit ∈ weekNames, ∀ e ∈ table.take 2 ++ (table.drop 3).take 3,
      e.pattern.mayBeIn (timesOutline ('每' :: unit)) = false := by decide +kernel
  have fits : Fits (timesOutline ('每' :: unit)) (timesEach unit n) := count.fits ('每' :: unit)
  rw [recognize, ruleFrom_drop 2 fits fun e member => never unit known e (List.mem_append_left _ member)]
  change ruleFrom (weekly :: table.drop 3) _ = _
  by_cases plain : strayWeekdays n = []
  · rw [plain]
    exact ruleFrom_plain (takesOnly_week known) (outcomes_weekdayAhead count plain)
  · obtain ⟨c, d, r, w, rfl, weekday, second, day⟩ := exists_weekday count plain
    have listed : (weekdaySigns ++ "末".toList).contains c = true :=
      List.contains_iff_mem.mpr (List.mem_append_left _ weekday)
    have sign := (takesOnly_char listed).takes (('每' :: unit).getLast?.or none)
      (d :: (r ++ ['次'])) []
    have passed : ruleFrom (weekly :: table.drop 3) (timesEach unit (c :: d :: r))
        = ruleFrom (table.drop 3) (timesEach unit (c :: d :: r)) := by
      apply ruleFrom_ahead count (takesOnly_week known) (head?_weekday second sign)
      · rcases eq_of_mem_weekNames known with rfl | rfl <;> decide +kernel
      · rcases eq_of_mem_weekNames known with rfl | rfl <;> decide +kernel
    rw [passed, ruleFrom_drop 3 fits fun e member =>
      never unit known e (List.mem_append_right _ member), strayWeekdays, day]
    exact ruleFrom_onOneWeekday known weekday second day

/-! The monthly entries. -/

/-- What closes a day of the month: it may have the sign for a day, and it is no number of times. -/
def dayEnd : Pattern :=
  sequence [zeroOrMore isBlank, optional (oneOf "号日".toList),
    notAhead (sequence [zeroOrMore isBlank, word "次"])]

/-- A day of the month: the plain entry looks for it behind the month. -/
def dayAhead : Pattern := sequence [zeroOrMore isBlank, monthDay]

theorem refuses_dayEnd : Refuses dayEnd '次' := by
  have blank : Stays (zeroOrMore isBlank) '次' := stays_zeroOrMore (by decide)
  have bare : Stays (optional (oneOf "号日".toList)) '次' :=
    (refuses_char (by decide)).stays_optional
  have times := (blank.seq_takesOnly takesOnly_times.alone).refuses_notAhead
  exact blank.refuses_seq (bare.refuses_seq times.seq)

theorem stays_dayEnd : Stays dayEnd '两' := by
  have blank : Stays (zeroOrMore isBlank) '两' := stays_zeroOrMore (by decide)
  have bare : Stays (optional (oneOf "号日".toList)) '两' :=
    (refuses_char (by decide)).stays_optional
  have other : Refuses (sequence [zeroOrMore isBlank, word "次"]) '两' :=
    blank.refuses_seq (refuses_times (by decide)).seq
  exact blank.seq (bare.seq other.stays_notAhead.alone)

/-- A number without a day in it is taken as a whole. -/
theorem rest_of_mem_dayForms {a b : Place} (count : IsCount n)
    (free : '两' ∉ n ∨ n.head? = some '两') (front : a.rest = n ++ ['次'])
    (reached : b ∈ dayForms.outcomes a) : b.rest = ['次'] := by
  have digitRun : ∀ t, (sequence [char isDigit, optional (char isDigit)]).Admits t →
      t ≠ [] ∧ ∀ c ∈ t, isDigit c = true := by
    intro t admits
    obtain ⟨nonempty, -, digits⟩ := @digits_of_admits t empty (fun _ => id) admits
    exact ⟨nonempty, digits⟩
  have signRun : ∀ t, (sequence [oneOrMore isDayNumeral]).Admits t →
      t ≠ [] ∧ ∀ c ∈ t, isDayNumeral c = true := by
    rintro _ ⟨u, _, rfl, admits, rfl⟩
    rw [List.append_nil]
    exact admits_oneOrMore.mp admits
  obtain ⟨c, r, rfl⟩ := List.exists_cons_of_ne_nil count.nonempty
  rcases List.mem_append.mp reached with digits | signs
  · obtain ⟨⟨_, first, digit⟩, rest⟩ := of_mem_outcomes_maximal digitRun digits
    rw [front] at first rest
    obtain rfl := Option.some.inj first
    have all : ∀ d ∈ digitSigns, isDigit d = true := by decide
    have run := count.isDigit ⟨c, List.mem_cons_self, digit⟩
    rw [rest, List.dropWhile_append_of_pos fun d member => all d (run d member)]
    exact List.dropWhile_cons_of_neg (by decide)
  · obtain ⟨⟨_, first, day⟩, rest⟩ := of_mem_outcomes_maximal signRun signs
    rw [front] at first rest
    obtain rfl := Option.some.inj first
    rw [rest, List.dropWhile_append_of_pos (isDayNumeral_of_free count free day)]
    exact List.dropWhile_cons_of_neg (by decide)

theorem outcomes_dayAhead (count : IsCount n) (free : '两' ∉ n ∨ n.head? = some '两') :
    dayAhead.outcomes ⟨before, n ++ ['次'], groups⟩ = [] := by
  have printing : ∀ c ∈ countSigns, isBlank c = false := by decide
  have absent : monthDay.outcomes ⟨before, n ++ ['次'], groups⟩ = [] := by
    apply List.flatMap_eq_nil_iff.mpr
    intro b reached
    obtain ⟨b', inside, rfl⟩ := List.mem_map.mp reached
    have rest : b'.rest = ['次'] := rest_of_mem_dayForms count free rfl inside
    exact refuses_dayEnd.outcomes_eq_nil rest
  have signs := count.mem_countSigns
  obtain ⟨c, r, rfl⟩ := List.exists_cons_of_ne_nil count.nonempty
  have blank := stays_zeroOrMore (printing c (signs c List.mem_cons_self)) before (r ++ ['次']) groups
  change ((zeroOrMore isBlank).outcomes _).flatMap (seq monthDay empty).outcomes = []
  rw [List.cons_append, blank, List.flatMap_singleton, outcomes_seq, ← List.cons_append, absent]
  rfl

/-- The signs in front of 两 are kept as a day. -/
theorem head?_dayAhead {day : Text} (nonempty : day ≠ [])
    (numerals : ∀ c ∈ day, isDayNumeral c = true) :
    (dayAhead.outcomes ⟨before, day ++ '两' :: t, groups⟩).head?
      = some ⟨day.getLast?.or before, '两' :: t, (1, day ++ '两' :: t, '两' :: t) :: groups⟩ := by
  have none : ∀ c ∈ "零一二三四五六七八九十".toList, isBlank c = false ∧ isDigit c = false := by
    decide +kernel
  have number : ((choice [sequence [oneOrMore isDayNumeral, notAhead (char isDayNumeral)]]).outcomes
      ⟨before, day ++ '两' :: t, groups⟩).head? = some ⟨day.getLast?.or before, '两' :: t, groups⟩ := by
    have stop : isDayNumeral '两' = false := by decide
    have run := @head?_oneOrMore isDayNumeral before day ('两' :: t) groups nonempty numerals
      fun c leads => Option.some.inj leads ▸ stop
    exact head?_seq run ((refuses_char stop).stays_notAhead.alone.head? _ t groups)
  obtain ⟨c, r, rfl⟩ := List.exists_cons_of_ne_nil nonempty
  obtain ⟨printing, other⟩ := none c (List.contains_iff_mem.mp (numerals c List.mem_cons_self))
  have digits : Refuses (sequence [char isDigit, optional (char isDigit), notAhead (char isDigit)]) c :=
    (refuses_char other).seq
  have kept := head?_group (digits.head?_choice number) 1
  have blank := (stays_zeroOrMore printing).head? before (r ++ '两' :: t) groups
  exact head?_seq blank (head?_seq (head?_seq kept (stays_dayEnd.head? _ t _)) rfl)

theorem ruleFrom_onOneMonthDay {day r : Text} {k : Int} {later : List Entry}
    (known : unit ∈ monthNames) (nonempty : day ≠ []) (numerals : ∀ c ∈ day, isDayNumeral c = true)
    (worth : number? day = .ok (some k)) :
    ruleFrom (onOneMonthDay :: later) (timesEach unit (day ++ '两' :: r))
      = .ok (some { frequency := some .monthly, byMonthDay := [k] }) := by
  let rest := '两' :: (r ++ ['次'])
  let place : Place := ⟨day.getLast?.or (('每' :: unit).getLast?.or none), rest, [(1, day ++ rest, rest)]⟩
  have seen : ((sequence [zeroOrMore isBlank, monthDay]).outcomes
      ⟨('每' :: unit).getLast?.or none, day ++ '两' :: r ++ ['次'], []⟩).head? = some place := by
    rw [List.append_assoc]
    exact head?_dayAhead nonempty numerals
  have found : onOneMonthDay.pattern.find? (timesEach unit (day ++ '两' :: r)) = some place :=
    find?_of_lead (takesOnly_month known) seen
  have kept : firstGroup place = day := firstGroup_of_group?_one group?_kept nonempty
  rw [ruleFrom, found]
  change (onMonthDay place).map some = _
  rw [onMonthDay, kept, worth]
  rfl

theorem recognize_timesEach_month (count : IsCount n) (known : unit ∈ monthNames) :
    recognize (timesEach unit n)
      = .ok (some { frequency := some .monthly, byMonthDay := strayMonthDays n }) := by
  have never : ∀ unit ∈ monthNames, ∀ e ∈ table.take 7 ++ (table.drop 8).take 1,
      e.pattern.mayBeIn (timesOutline ('每' :: unit)) = false := by decide +kernel
  have fits : Fits (timesOutline ('每' :: unit)) (timesEach unit n) := count.fits ('每' :: unit)
  rw [recognize, ruleFrom_drop 7 fits fun e member => never unit known e (List.mem_append_left _ member)]
  change ruleFrom (monthly :: table.drop 8) _ = _
  by_cases free : '两' ∉ n ∨ n.head? = some '两'
  · rw [strayMonthDays_eq_nil count free]
    exact ruleFrom_plain (takesOnly_month known) (outcomes_dayAhead count free)
  · rw [not_or, not_not] at free
    obtain ⟨day, r, k, rfl, nonempty, numerals, worth, days⟩ := exists_day count free.1 free.2
    have seen := @head?_dayAhead (r ++ ['次']) (('每' :: unit).getLast?.or none) [] day nonempty numerals
    rw [← List.cons_append, ← List.append_assoc] at seen
    have passed : ruleFrom (monthly :: table.drop 8) (timesEach unit (day ++ '两' :: r))
        = ruleFrom (table.drop 8) (timesEach unit (day ++ '两' :: r)) := by
      apply ruleFrom_ahead count (takesOnly_month known) seen
      · rcases eq_of_mem_monthNames known with rfl | rfl <;> decide +kernel
      · rcases eq_of_mem_monthNames known with rfl | rfl <;> decide +kernel
    rw [passed, ruleFrom_drop 1 fits fun e member =>
      never unit known e (List.mem_append_right _ member), days]
    exact ruleFrom_onOneMonthDay known nonempty numerals worth

/-- A number of times each week or month is a rule of that frequency. It has the days that are read
in the number: none, unless a weekday begins a number of two signs or more, or signs of a day stand
in front of 两. -/
theorem recognize_timesEach (count : IsCount n) :
    (∀ week ∈ weekNames, recognize (timesEach week n)
        = .ok (some { frequency := some .weekly, byDay := strayWeekdays n })) ∧
      (∀ month ∈ monthNames, recognize (timesEach month n)
        = .ok (some { frequency := some .monthly, byMonthDay := strayMonthDays n })) ∧
      (strayWeekdays n = [] ↔ n.length = 1 ∨ ∀ c ∈ n.head?, c ∉ weekdaySigns) ∧
      (strayMonthDays n = [] ↔ '两' ∉ n ∨ n.head? = some '两') :=
  ⟨fun _ => recognize_timesEach_week count, fun _ => recognize_timesEach_month count,
    strayWeekdays_eq_nil_iff count, strayMonthDays_eq_nil_iff count⟩

/-- Three times a week is plain, and twenty times a week is every Tuesday. -/
theorem recognize_timesEach_twenty :
    IsCount ['三'] ∧ IsCount ['二', '十'] ∧
      recognize "每周三次".toList = .ok (some { frequency := some .weekly }) ∧
      recognize "每周二十次".toList
        = .ok (some { frequency := some .weekly, byDay := [Weekday.tuesday.code] }) ∧
      recognize "每个月二十次".toList = .ok (some { frequency := some .monthly }) := by
  have three : IsCount ['三'] := ⟨by decide, .inr (by decide)⟩
  have twenty : IsCount ['二', '十'] := ⟨by decide, .inr (by decide)⟩
  exact ⟨three, twenty, (recognize_timesEach three).1 ['周'] (by decide),
    (recognize_timesEach twenty).1 ['周'] (by decide),
    (recognize_timesEach twenty).2.1 ['个', '月'] (by decide)⟩

end Recurrence.Phrase
