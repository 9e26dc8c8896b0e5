import Mathlib.Data.List.Basic
import Recurrence.Document.Reading
import Recurrence.Proofs.Document.Quoted
import Recurrence.Proofs.Text.Numeral

/-! Documents line by line. Each kind of line that settings are written with is read as it was
meant, whatever follows it, so that a document is read by reading its lines one after the other. -/

namespace Recurrence.Document

variable {t r s name written : Text} {c : Char} {n fuel : Nat} {v : Value}

theorem skipBlanks_eq_self (front : c ≠ ' ' ∧ c ≠ '\t') : skipBlanks (c :: t) = c :: t := by
  have blank : (c == ' ' || c == '\t') = false := by
    rw [Bool.or_eq_false_iff]
    exact ⟨beq_false_of_ne front.1, beq_false_of_ne front.2⟩
  rw [skipBlanks, List.dropWhile_cons, blank, if_neg Bool.false_ne_true]

/-! Numbers. -/

/-- Digits are read up to the end of the line. -/
theorem moreDigits_line (digits : ∀ c ∈ t, c.isDigit = true) :
    moreDigits Char.isDigit (t ++ '\n' :: r) = (t, '\n' :: r) := by
  induction t with
  | nil =>
      rw [List.nil_append, moreDigits]
      · rfl
      · exact fun _ _ absurdity => absurd absurdity (by decide)
  | cons c t ih =>
      obtain ⟨digit, others⟩ := List.forall_mem_cons.mp digits
      rw [List.cons_append, moreDigits, if_pos digit, ih others]
      exact fun _ _ same => absurd same (ne_of_test digit (by decide))

/-- So many digits are found in a line of digits only within it. -/
theorem digits?_line {width m : Nat} (digits : ∀ c ∈ t, c.isDigit = true)
    (found : digits? width (t ++ '\n' :: r) = some (m, s)) :
    ∃ u, s = u ++ '\n' :: r ∧ ∀ c ∈ u, c.isDigit = true := by
  unfold digits? at found
  dsimp only at found
  split at found
  · rename_i within
    cases found
    have short : width ≤ t.length := by
      apply Nat.le_of_not_lt
      intro beyond
      have last : '\n' ∈ (t ++ '\n' :: r).take width := by
        rw [List.take_append, List.mem_append]
        obtain ⟨k, same⟩ := Nat.exists_eq_add_of_lt beyond
        have more : width - t.length = k + 1 := by omega
        rw [more]
        exact .inr List.mem_cons_self
      exact absurd (List.all_eq_true.mp within.2 '\n' last) (by decide)
    refine ⟨t.drop width, List.drop_append_of_le_length short, fun c member => ?_⟩
    exact digits c (List.mem_of_mem_drop member)
  · cases found

/-- Behind digits stands no sign of a date or a time. -/
theorem after?_line {d : Char} (digits : ∀ c ∈ t, c.isDigit = true) (sign : d.isDigit = false)
    (other : d ≠ '\n') : Text.after? [d] (t ++ '\n' :: r) = none := by
  cases t with
  | nil => exact if_neg other
  | cons c t => exact if_neg (ne_of_test (digits c List.mem_cons_self) sign).symm

theorem calendarDate?_line (digits : ∀ c ∈ t, c.isDigit = true) :
    calendarDate? (t ++ '\n' :: r) = none := by
  rw [calendarDate?]
  cases year : digits? 4 (t ++ '\n' :: r) with
  | none => rfl
  | some p =>
      obtain ⟨u, rest, all⟩ := digits?_line digits year
      change (Text.after? ['-'] p.2).bind _ = none
      rw [rest, after?_line all (by decide) (by decide)]
      rfl

theorem clockTime?_line (digits : ∀ c ∈ t, c.isDigit = true) :
    clockTime? (t ++ '\n' :: r) = none := by
  rw [clockTime?]
  cases hours : twoDigits? 0 23 (t ++ '\n' :: r) with
  | none => rfl
  | some p =>
      obtain ⟨u, rest, all⟩ := digits?_line digits (Option.filter_eq_some_iff.mp hours).1
      change (Text.after? [':'] p.2).bind _ = none
      rw [rest, after?_line all (by decide) (by decide)]
      rfl

theorem digitsTo_ten (digits : ∀ c ∈ t, c.isDigit = true) :
    digitsTo 10 t = Integer.ofDigits (t.map digitWorth) := by
  rw [digitsTo, Integer.ofDigits, List.foldl_map]
  apply List.foldl_ext
  intro m c member
  rw [if_pos (digits c member)]
  rfl

/-- A number that is written is read. -/
theorem number_decimal (positive : 0 < n) (short : Integer.IsShort n) :
    number (decimal n ++ '\n' :: r) = .ok (.integer n, '\n' :: r) := by
  have digits : ∀ c ∈ decimal n, c.isDigit = true := fun c => isDigit_of_mem_decimal
  obtain ⟨c, t, front, first⟩ := exists_decimal_eq_cons positive
  have length : ¬ digitLimit < (decimal n).length :=
    Nat.not_lt.mpr (Integer.length_decimal_le (by decide) short)
  have worth := Integer.ofDigits_decimal n
  rw [← digitsTo_ten digits] at worth
  rw [number, calendarDate?_line digits, clockTime?_line digits]
  rw [front] at digits length worth ⊢
  obtain ⟨digit, others⟩ := List.forall_mem_cons.mp digits
  have zero : c ≠ '0' := by
    rintro rfl
    exact absurd first (by decide)
  have based : basedNumber? (c :: t ++ '\n' :: r) = none := by
    rw [List.cons_append, basedNumber?]
    all_goals
      intro _ same
      exact zero (List.cons.inj same).1
  have whole : decimalNumber? (c :: t ++ '\n' :: r) = some (.ok (.integer n), '\n' :: r) := by
    have run : wholePart? (c :: t ++ '\n' :: r) = some (c :: t, '\n' :: r) := by
      rw [List.cons_append, wholePart?]
      · rw [digitRun?, if_pos digit, moreDigits_line others]
      · intro _ same
        exact zero (List.cons.inj same).1
    have unsigned : Integer.signed (c :: t ++ '\n' :: r) = (false, c :: t ++ '\n' :: r) := by
      rw [List.cons_append, Integer.signed]
      all_goals
        intro _ same
        exact ne_of_test digit (by decide) (List.cons.inj same).1
    have ends : fractionPart ('\n' :: r) = ([], '\n' :: r) := rfl
    have stops : exponentPart ('\n' :: r) = (none, '\n' :: r) := rfl
    simp only [decimalNumber?, unsigned, run, ends, stops, List.append_nil, worth, if_neg length,
      List.isEmpty_nil, Option.isNone_none, Bool.and_self, if_true, Bool.false_eq_true, if_false]
  rw [based]
  dsimp only
  rw [whole]

/-! Values and names. -/

/-- A value that is written on the rest of a line: it is read up to the line's end, and it begins
with no blank. -/
structure Writes (written : Text) (v : Value) : Prop where
  reads : ∀ fuel r, value (fuel + 1) (written ++ '\n' :: r) = .ok (v, '\n' :: r)
  front : ∀ r, skipBlanks (written ++ '\n' :: r) = written ++ '\n' :: r

theorem writes_text (plain : IsPlain t) : Writes ('"' :: t ++ ['"']) (.text t) where
  reads := by
    intro fuel r
    have front : '"' :: t ++ ['"'] ++ '\n' :: r = '"' :: (t ++ '"' :: '\n' :: r) := by
      rw [List.append_assoc]
      rfl
    rw [front, value, quotedText_plain plain (by decide)]
    rfl
  front := fun r => skipBlanks_eq_self (by decide)

theorem writes_true : Writes "true".toList (.flag true) := ⟨fun _ _ => rfl, fun _ => rfl⟩

theorem writes_false : Writes "false".toList (.flag false) := ⟨fun _ _ => rfl, fun _ => rfl⟩

theorem writes_decimal (positive : 0 < n) (short : Integer.IsShort n) :
    Writes (decimal n) (.integer n) := by
  obtain ⟨c, t, front, -⟩ := exists_decimal_eq_cons positive
  have digit : c.isDigit = true := isDigit_of_mem_decimal (front ▸ List.mem_cons_self)
  have other : ∀ {d : Char}, d.isDigit = false → c ≠ d := ne_of_test digit
  constructor
  · intro fuel r
    have read := number_decimal (r := r) positive short
    rw [front, List.cons_append] at read ⊢
    have noTrue : Text.after? "true".toList (c :: (t ++ '\n' :: r)) = none :=
      if_neg (other (by decide)).symm
    have noFalse : Text.after? "false".toList (c :: (t ++ '\n' :: r)) = none :=
      if_neg (other (by decide)).symm
    rw [value, noTrue, noFalse]
    · exact read
    all_goals
      intro _ same
      exact other (by decide) (List.cons.inj same).1
  · intro r
    rw [front]
    exact skipBlanks_eq_self ⟨other (by decide), other (by decide)⟩

/-- A bare name is read up to the first character that is not part of one. -/
theorem key_bare {s : Text} (nonempty : name ≠ []) (bare : ∀ c ∈ name, isBareKeyChar c = true)
    (ends : isBareKeyChar c = false) (stop : skipBlanks (c :: r) = s) (last : s.head? ≠ some '.') :
    key (name ++ c :: r) = .ok ([name], s) := by
  obtain ⟨d, rest, rfl⟩ := List.exists_cons_of_ne_nil nonempty
  have first := bare d List.mem_cons_self
  have part : keyPart (d :: rest ++ c :: r) = .ok (d :: rest, c :: r) := by
    rw [List.cons_append, keyPart, if_pos first, ← List.cons_append,
      List.takeWhile_append_of_pos bare, List.dropWhile_append_of_pos bare, List.takeWhile_cons,
      List.dropWhile_cons, ends, if_neg Bool.false_ne_true, if_neg Bool.false_ne_true,
      List.append_nil]
    · rintro rfl
      exact absurd first (by decide)
    · rintro rfl
      exact absurd first (by decide)
  rw [key, keyWithin, part]
  dsimp only
  rw [stop]
  cases s with
  | nil => rfl
  | cons e s =>
      split
      · rename_i same
        exact absurd (congrArg List.head? same) last
      · rfl

namespace Draft

variable {d d' d'' : Draft} {entries : Table} {marks : Marks}

/-- The lines of a text take a draft to another, whatever follows them. -/
def Reads (d : Draft) (t : Text) (d' : Draft) : Prop :=
  ∃ k ≤ t.length, ∀ fuel r, statements (fuel + k) d (t ++ r) = statements fuel d' r

theorem Reads.trans (one : Reads d s d') (two : Reads d' t d'') : Reads d (s ++ t) d'' := by
  obtain ⟨k, short, first⟩ := one
  obtain ⟨m, bound, second⟩ := two
  refine ⟨m + k, ?_, fun fuel r => ?_⟩
  · rw [List.length_append]
    omega
  · rw [List.append_assoc, ← Nat.add_assoc, first, second]

theorem statements_nil (fuel : Nat) (d : Draft) : statements fuel d [] = .ok d := by
  cases fuel with
  | zero => rfl
  | succ fuel => rfl

/-- A document without other line ends is read by its lines. -/
theorem read_of_reads (lines : Reads {} t d)
    (feeds : Text.replace ['\r', '\n'] ['\n'] t = t) : read t = .ok d.entries := by
  obtain ⟨k, short, all⟩ := lines
  have run := all (t.length + 1 - k) []
  rw [Nat.sub_add_cancel (by omega), List.append_nil, statements_nil] at run
  rw [read, feeds, run]
  rfl

theorem reads_blank (d : Draft) : Reads d ['\n'] d := ⟨1, Nat.le_refl 1, fun _ _ => rfl⟩

theorem statements_cons (first : c ≠ ' ' ∧ c ≠ '\t' ∧ c ≠ '\n') :
    statements (fuel + 1) d (c :: t)
      = match d.statement (c :: t) with
        | .error e => .error e
        | .ok (d, r) =>
          match comment (skipBlanks r) with
          | .error e => .error e
          | .ok [] => .ok d
          | .ok ('\n' :: r) => statements fuel d r
          | .ok _ => .error .malformed := by
  rw [statements, skipBlanks_eq_self ⟨first.1, first.2.1⟩]
  split
  · rename_i absurdity
    cases absurdity
  · rename_i same
    exact absurd (List.cons.inj same).1 first.2.2
  · rfl

/-- A line whose statement ends with it, or with a comment that does. -/
theorem reads_line (first : c ≠ ' ' ∧ c ≠ '\t' ∧ c ≠ '\n')
    (read : ∀ r, ∃ s, d.statement (c :: t ++ '\n' :: r) = .ok (d', s) ∧
      comment (skipBlanks s) = .ok ('\n' :: r)) : Reads d (c :: t ++ ['\n']) d' := by
  refine ⟨1, Nat.succ_le_succ (Nat.zero_le _), fun fuel r => ?_⟩
  obtain ⟨s, statement, rest⟩ := read r
  have shape : c :: t ++ ['\n'] ++ r = c :: t ++ '\n' :: r := by
    rw [List.append_assoc]
    rfl
  rw [List.cons_append] at statement
  rw [shape, List.cons_append, statements_cons first, statement]
  dsimp only
  rw [rest]
  rfl

theorem reads_comment (d : Draft) (printing : ∀ c ∈ t, isControl c = false) :
    Reads d ('#' :: t ++ ['\n']) d := by
  apply reads_line (by decide)
  intro r
  have whole : ∀ c ∈ t, (c != '\n') = true := by
    intro c member
    rw [bne_iff_ne]
    rintro rfl
    exact absurd (printing '\n' member) (by decide)
  refine ⟨'#' :: t ++ '\n' :: r, rfl, ?_⟩
  rw [List.cons_append, skipBlanks_eq_self (by decide), comment,
    List.takeWhile_append_of_pos whole, List.dropWhile_append_of_pos whole]
  have quiet : (t ++ List.takeWhile (· != '\n') ('\n' :: r)).any isControl = false := by
    rw [List.takeWhile_cons, if_neg (by decide), List.append_nil]
    exact List.any_eq_false.mpr fun c member => Bool.eq_false_iff.mp (printing c member)
  rw [quiet]
  rfl

/-- A name begins an entry. -/
theorem statement_bare (bare : isBareKeyChar c = true) : d.statement (c :: t) = d.entry (c :: t) := by
  rw [statement, bare, Bool.true_or, Bool.true_or, if_pos rfl]
  · exact fun _ same => absurd same (ne_of_test bare (by decide))
  · exact ne_of_test bare (by decide)
  · exact ne_of_test bare (by decide)

theorem entry_of_error {e : Trouble} (nonempty : name ≠ [])
    (bare : ∀ c ∈ name, isBareKeyChar c = true) (front : skipBlanks (' ' :: t) = t)
    (given : ∀ fuel, value (fuel + 1) t = .error e) :
    d.entry (name ++ ' ' :: '=' :: ' ' :: t) = .error e := by
  have names : key (name ++ ' ' :: '=' :: ' ' :: t) = .ok ([name], '=' :: ' ' :: t) :=
    key_bare nonempty bare (by decide) rfl nofun
  simp only [entry, names, front, given]

/-- An entry with a bare name adds its value to the table of the last heading. -/
theorem entry_of_ok (nonempty : name ≠ []) (bare : ∀ c ∈ name, isBareKeyChar c = true)
    (front : skipBlanks (' ' :: t) = t) (given : ∀ fuel, value (fuel + 1) t = .ok (v, r))
    (openValue : isClosedValue v = false) (free : d.marks.frozen = [])
    (added : Table.updateAt? true (Table.add? name v) d.heading d.entries = some entries) :
    d.entry (name ++ ' ' :: '=' :: ' ' :: t) = .ok ({ d with entries }, r) := by
  have names : key (name ++ ' ' :: '=' :: ' ' :: t) = .ok ([name], '=' :: ' ' :: t) :=
    key_bare nonempty bare (by decide) rfl nofun
  have nothing : d.passed [name] = [] := rfl
  have thawed : d.marks.isFrozen d.heading = false := by
    rw [Marks.isFrozen, free]
    rfl
  simp only [entry, names, front, given, nothing, List.any_nil, List.dropLast_singleton,
    List.append_nil, thawed, Bool.and_false, Bool.or_false, Bool.false_eq_true, if_false,
    List.getLastD_cons, List.getLastD_nil, added, openValue, List.nil_append]

/-- A line with a bare name and a value is an entry. -/
theorem reads_entry (nonempty : name ≠ []) (bare : ∀ c ∈ name, isBareKeyChar c = true)
    (value : Writes written v) (openValue : isClosedValue v = false) (free : d.marks.frozen = [])
    (added : Table.updateAt? true (Table.add? name v) d.heading d.entries = some entries) :
    Reads d (name ++ " = ".toList ++ written ++ ['\n']) { d with entries } := by
  have line := fun r => entry_of_ok nonempty bare (value.front r) (fun fuel => value.reads fuel r)
    openValue free added
  obtain ⟨c, rest, rfl⟩ := List.exists_cons_of_ne_nil nonempty
  have first := bare c List.mem_cons_self
  rw [List.cons_append, List.cons_append]
  apply reads_line
  · exact ⟨ne_of_test first (by decide), ne_of_test first (by decide),
      ne_of_test first (by decide)⟩
  · intro r
    refine ⟨'\n' :: r, ?_, rfl⟩
    have split : c :: (rest ++ " = ".toList ++ written) ++ '\n' :: r
        = (c :: rest) ++ ' ' :: '=' :: ' ' :: (written ++ '\n' :: r) := by
      rw [List.cons_append, List.append_assoc, List.append_assoc]
      rfl
    rw [split, List.cons_append, statement_bare first]
    exact line r

/-- A heading opens the table of its name. -/
theorem reads_heading (nonempty : name ≠ []) (bare : ∀ c ∈ name, isBareKeyChar c = true)
    (fresh : d.marks.settle.open? [name] = some marks)
    (added : Table.updateAt? true some [name] d.entries = some entries) :
    Reads d ('[' :: (name ++ [']']) ++ ['\n']) { entries, marks, heading := [name] } := by
  obtain ⟨c, rest, rfl⟩ := List.exists_cons_of_ne_nil nonempty
  have other : ∀ {e : Char}, isBareKeyChar e = false → c ≠ e := ne_of_test (bare c List.mem_cons_self)
  apply reads_line (by decide)
  intro r
  refine ⟨'\n' :: r, ?_, rfl⟩
  have split : '[' :: ((c :: rest) ++ [']']) ++ '\n' :: r
      = '[' :: ((c :: rest) ++ ']' :: '\n' :: r) := by
    rw [List.cons_append, List.append_assoc]
    rfl
  have names : key ((c :: rest) ++ ']' :: '\n' :: r) = .ok ([c :: rest], ']' :: '\n' :: r) :=
    key_bare nonempty bare (by decide) rfl fun same => absurd (Option.some.inj same) (by decide)
  have front : skipBlanks ((c :: rest) ++ ']' :: '\n' :: r) = (c :: rest) ++ ']' :: '\n' :: r :=
    skipBlanks_eq_self ⟨other (by decide), other (by decide)⟩
  rw [split, List.cons_append, statement]
  · rw [← List.cons_append]
    simp only [tableHeading, front, names, fresh, added]
  · exact fun _ same => other (by decide) (List.cons.inj same).1

end Draft

end Recurrence.Document
