import Recurrence.Document.Scalar
import Recurrence.Proofs.Fault
import Recurrence.Proofs.Text.Cut

/-! Texts in double quotes. A plain text between quotes is read as it is; any other text between
quotes, if it is read at all, comes out shorter. -/

namespace Recurrence.Document

/-- No quote, no backslash, and no control character but the tab. -/
def IsPlain (t : Text) : Prop := ∀ c ∈ t, c ≠ '"' ∧ c ≠ '\\' ∧ isControl c = false

instance : DecidablePred IsPlain := fun _ => List.decidableBAll ..

variable {t u r s w cs v v' : Text} {c x : Char} {fuel width : Nat} {severalLines : Bool}

theorem isPlain_nil : IsPlain [] := fun _ absent => absurd absent List.not_mem_nil

theorem doubleQuoted_step {read : Text} (quote : c ≠ '"') (slash : c ≠ '\\') :
    doubleQuoted severalLines (fuel + 1) read (c :: r)
      = if isControl c && !(severalLines && c == '\n') then .error .malformed
        else doubleQuoted severalLines fuel (c :: read) r := by
  rw [doubleQuoted]
  · exact slash
  · exact quote

/-- Reading goes through a plain text as it is. -/
theorem doubleQuoted_plain {read : Text} (plain : IsPlain t) (enough : t.length < fuel) :
    doubleQuoted false fuel read (t ++ '"' :: r) = .ok (read.reverse ++ t, r) := by
  induction t generalizing fuel read with
  | nil =>
      cases fuel with
      | zero => exact absurd enough (Nat.not_lt_zero _)
      | succ fuel =>
          rw [List.append_nil]
          rfl
  | cons c t ih =>
      obtain ⟨⟨quote, slash, printing⟩, others⟩ := List.forall_mem_cons.mp plain
      cases fuel with
      | zero => exact absurd enough (Nat.not_lt_zero _)
      | succ fuel =>
          rw [List.cons_append, doubleQuoted_step quote slash, printing, Bool.false_and,
            if_neg Bool.false_ne_true, ih others (Nat.lt_of_succ_lt_succ enough),
            List.reverse_cons, List.append_assoc]
          rfl

theorem quotedText_single (single : ∀ s, t ≠ '"' :: '"' :: s) :
    quotedText ('"' :: t) = doubleQuoted false (t.length + 1) [] t := by
  rw [quotedText]
  exact fun s same => single s same

theorem quotedText_plain (plain : IsPlain t) (quote : x ≠ '"') :
    quotedText ('"' :: (t ++ '"' :: x :: r)) = .ok (t, x :: r) := by
  rw [quotedText_single, doubleQuoted_plain plain]
  · rfl
  · rw [List.length_append]
    omega
  · intro s same
    cases t with
    | nil => exact quote (List.cons.inj (List.cons.inj same).2).1
    | cons c t => exact (plain c List.mem_cons_self).1 (List.cons.inj same).1

/-! What an escape takes. -/

theorem isSome_of_mapM {α β : Type} {f : α → Option β} {l : List α} {bs : List β}
    (all : l.mapM f = some bs) : ∀ a ∈ l, (f a).isSome = true := by
  induction l generalizing bs with
  | nil => exact fun _ absent => absurd absent List.not_mem_nil
  | cons a l ih =>
      rw [List.mapM_cons] at all
      obtain ⟨b, first, later⟩ := Option.bind_eq_some_iff.mp all
      obtain ⟨ds, others, -⟩ := Option.bind_eq_some_iff.mp later
      intro e member
      rcases List.mem_cons.mp member with rfl | behind
      · rw [first]
        rfl
      · exact ih others e behind

/-- There is no quote among the digits of a character given by its number. -/
theorem hexChar_spec (given : hexChar width t = .ok (c, r)) : ∃ w, t = w ++ r ∧ '"' ∉ w := by
  unfold hexChar at given
  dsimp only at given
  split at given
  · cases given
  · rename_i ds all
    split at given
    · cases given
      refine ⟨t.take width, (List.take_append_drop width t).symm, fun member => ?_⟩
      exact absurd (isSome_of_mapM all '"' member) (by decide)
    · cases given

/-- What an escape stands for is one character at most. A quote is in the escape for the quote only,
unless lines are joined. -/
def IsEscape (severalLines : Bool) (t cs r : Text) : Prop :=
  cs.length ≤ 1 ∧ ∃ w, t = w ++ r ∧ w ≠ [] ∧ (severalLines = false → '"' ∈ w → w = ['"'])

theorem isEscape_letter (c d : Char) (r : Text) : IsEscape severalLines (c :: r) [d] r := by
  refine ⟨Nat.le_refl 1, [c], rfl, List.cons_ne_nil c [], fun _ quote => ?_⟩
  rw [List.mem_singleton.mp quote]

theorem isEscape_hexChar (other : c ≠ '"')
    (given : (hexChar width t).map (fun p => ([p.1], p.2)) = .ok (cs, r)) :
    IsEscape severalLines (c :: t) cs r := by
  obtain ⟨⟨d, rest⟩, digits, same⟩ := map_eq_ok.mp given
  cases same
  obtain ⟨w, front, free⟩ := hexChar_spec digits
  refine ⟨Nat.le_refl 1, c :: w, congrArg (c :: ·) front, List.cons_ne_nil c w, fun _ quote => ?_⟩
  rcases List.mem_cons.mp quote with same | inside
  · exact absurd same.symm other
  · exact absurd inside free

theorem isEscape_joined (suffix : r <:+ t) : IsEscape true (c :: t) [] r := by
  obtain ⟨w, rfl⟩ := suffix
  exact ⟨Nat.zero_le 1, c :: w, rfl, List.cons_ne_nil c w, nofun⟩

theorem skipBlanks_isSuffix (t : Text) : skipBlanks t <:+ t := List.dropWhile_suffix _

theorem skipBlanksAndLines_isSuffix (t : Text) : skipBlanksAndLines t <:+ t :=
  List.dropWhile_suffix _

theorem isEscape_of_escape (given : escape severalLines t = .ok (cs, r)) :
    IsEscape severalLines t cs r := by
  unfold escape at given
  split at given
  case h_8 => exact isEscape_hexChar (by decide) given
  case h_9 => exact isEscape_hexChar (by decide) given
  case h_10 c s _ _ _ _ _ _ _ _ _ =>
    cases severalLines with
    | false => cases given
    | true =>
        simp only [Bool.not_true, Bool.false_eq_true, if_false] at given
        split at given
        · cases given
          exact isEscape_joined (skipBlanksAndLines_isSuffix s)
        · split at given
          · split at given
            · cases given
              exact isEscape_joined (List.nil_suffix)
            · rename_i rest blank
              cases given
              have behind : '\n' :: rest <:+ s := blank ▸ skipBlanks_isSuffix s
              exact isEscape_joined
                ((skipBlanksAndLines_isSuffix rest).trans ((List.suffix_cons _ rest).trans behind))
            · cases given
          · cases given
  case h_11 => cases given
  all_goals
    cases given
    exact isEscape_letter _ _ _

/-! What is read in quotes that enclose a text. -/

/-- A control character is not read on one line. -/
theorem doubleQuoted_control {read : Text} (control : isControl x = true) :
    doubleQuoted false fuel read (x :: s) = .error .malformed := by
  cases fuel with
  | zero => rfl
  | succ fuel =>
      rw [doubleQuoted_step (ne_of_test control (by decide)) (ne_of_test control (by decide)), control]
      rfl

/-- An escape ends before the closing quote, or it is the escape for that quote. -/
theorem escape_before_quote (given : escape false (t ++ '"' :: s) = .ok (cs, r)) :
    cs.length ≤ 1 ∧ ((∃ w u, w ≠ [] ∧ t = w ++ u ∧ r = u ++ '"' :: s) ∨ r = s) := by
  obtain ⟨short, w, split, nonempty, quote⟩ := isEscape_of_escape given
  refine ⟨short, ?_⟩
  rcases List.append_eq_append_iff.mp split with ⟨u, rfl, rest⟩ | ⟨u, rfl, rest⟩
  · cases u with
    | nil => exact .inl ⟨t ++ [], [], nonempty, by simp only [List.append_nil], rest.symm⟩
    | cons c u =>
        obtain ⟨rfl, rfl⟩ := List.cons.inj rest
        have alone := quote rfl (List.mem_append_right t List.mem_cons_self)
        have none : u = [] := by
          have := congrArg List.length alone
          rw [List.length_append, List.length_cons, List.length_singleton] at this
          exact List.eq_nil_of_length_eq_zero (by omega)
        exact .inr (none ▸ rfl)
  · exact .inl ⟨w, u, nonempty, rfl, rest⟩

/-- Between quotes on one line, with no line going on behind them, a text comes out as it is or
shorter. -/
theorem doubleQuoted_shrinks {read : Text} (control : isControl x = true)
    (given : doubleQuoted false fuel read (t ++ '"' :: x :: s) = .ok (v, r)) :
    ∃ p, v = read.reverse ++ p ∧ p.length ≤ t.length ∧ (p.length = t.length → p = t ∧ IsPlain t) := by
  induction fuel generalizing read t with
  | zero => cases given
  | succ fuel ih =>
      cases t with
      | nil =>
          cases given
          exact ⟨[], (List.append_nil _).symm, Nat.le_refl 0, fun _ => ⟨rfl, isPlain_nil⟩⟩
      | cons c t =>
          by_cases slash : c = '\\'
          · subst slash
            rw [List.cons_append, doubleQuoted] at given
            split at given
            · rename_i cs rest escaped
              obtain ⟨short, ⟨w, u, nonempty, rfl, rfl⟩ | rfl⟩ := escape_before_quote escaped
              · obtain ⟨p, rfl, bound, -⟩ := ih given
                have consumed := List.length_pos_iff.mpr nonempty
                refine ⟨cs ++ p, ?_, ?_, fun equal => ?_⟩
                · rw [List.reverse_append, List.reverse_reverse, List.append_assoc]
                · rw [List.length_append, List.length_cons, List.length_append]
                  omega
                · rw [List.length_append, List.length_cons, List.length_append] at equal
                  omega
              · rw [doubleQuoted_control control] at given
                cases given
            · cases given
          · by_cases quote : c = '"'
            · subst quote
              cases given
              exact ⟨[], (List.append_nil _).symm, Nat.zero_le _, fun equal => nomatch equal⟩
            · rw [List.cons_append, doubleQuoted_step quote slash, Bool.false_and, Bool.not_false,
                Bool.and_true] at given
              split at given
              · cases given
              · rename_i printing
                obtain ⟨p, rfl, bound, exact⟩ := ih given
                refine ⟨c :: p, ?_, Nat.succ_le_succ bound, fun equal => ?_⟩
                · rw [List.reverse_cons, List.append_assoc]
                  rfl
                · obtain ⟨rfl, plain⟩ := exact (Nat.succ.inj equal)
                  exact ⟨rfl, List.forall_mem_cons.mpr
                    ⟨⟨quote, slash, Bool.eq_false_iff.mpr printing⟩, plain⟩⟩

/-! Three quotes. -/

/-- The three quotes at the end of a text on several lines. -/
def tripleQuote : Text := ['"', '"', '"']

/-- What is read on several lines is no longer than what stands before the three quotes. -/
theorem doubleQuoted_tripled {read : Text}
    (given : doubleQuoted true fuel read t = .ok (v, r)) :
    ∃ u, t = u ++ tripleQuote ++ r ∧ v.length ≤ read.length + u.length := by
  induction fuel generalizing read t with
  | zero => cases given
  | succ fuel ih =>
      have step : ∀ {c : Char} {s : Text}, doubleQuoted true fuel (c :: read) s = .ok (v, r) →
          ∃ u, c :: s = u ++ tripleQuote ++ r ∧ v.length ≤ read.length + u.length := by
        intro c s later
        obtain ⟨u, rfl, bound⟩ := ih later
        rw [List.length_cons] at bound
        refine ⟨c :: u, rfl, ?_⟩
        rw [List.length_cons]
        omega
      cases t with
      | nil => cases given
      | cons c t =>
          by_cases slash : c = '\\'
          · subst slash
            rw [doubleQuoted] at given
            split at given
            · rename_i cs rest escaped
              obtain ⟨short, w, rfl, nonempty, -⟩ := isEscape_of_escape escaped
              obtain ⟨u, rfl, bound⟩ := ih given
              rw [List.length_append, List.length_reverse] at bound
              refine ⟨'\\' :: w ++ u, by simp only [List.cons_append, List.append_assoc], ?_⟩
              rw [List.length_append, List.length_cons]
              omega
            · cases given
          · by_cases quote : c = '"'
            · subst quote
              by_cases triple : ∃ s, t = '"' :: '"' :: s
              · obtain ⟨s, rfl⟩ := triple
                cases given
                exact ⟨[], rfl, Nat.le_of_eq (List.length_reverse ..)⟩
              · rw [doubleQuoted] at given
                · exact step given
                · exact fun s same => triple ⟨s, same⟩
            · rw [doubleQuoted_step quote slash] at given
              split at given
              · cases given
              · exact step given

/-- Quotes that follow the three of the end are read too. -/
theorem moreQuotes_tripled (given : t = u ++ tripleQuote ++ r) (bound : v.length ≤ u.length) :
    ∃ u', t = u' ++ tripleQuote ++ (moreQuotes '"' (v, r)).2 ∧
      (moreQuotes '"' (v, r)).1.length ≤ u'.length := by
  subst given
  have stay : ∃ u', u ++ tripleQuote ++ r = u' ++ tripleQuote ++ r ∧ v.length ≤ u'.length :=
    ⟨u, rfl, bound⟩
  have further : ∀ (n : Nat) (s : Text), ∃ u',
      u ++ tripleQuote ++ (List.replicate n '"' ++ s) = u' ++ tripleQuote ++ s ∧
        (v ++ List.replicate n '"').length ≤ u'.length := by
    intro n s
    refine ⟨u ++ List.replicate n '"', ?_, ?_⟩
    · have swap : tripleQuote ++ List.replicate n '"' = List.replicate n '"' ++ tripleQuote := by
        change List.replicate 3 '"' ++ List.replicate n '"' = List.replicate n '"' ++ List.replicate 3 '"'
        rw [List.replicate_append_replicate, List.replicate_append_replicate, Nat.add_comm]
      rw [List.append_assoc, ← List.append_assoc tripleQuote, swap]
      simp only [List.append_assoc]
    · rw [List.length_append, List.length_append]
      omega
  unfold moreQuotes
  dsimp only
  split
  · split
    · rename_i a b s both
      rw [both.1, both.2]
      exact further 2 s
    · split
      · rename_i a b s _ first
        rw [first]
        exact further 1 (b :: s)
      · exact stay
  · split
    · rename_i a first
      rw [first]
      exact further 1 []
    · exact stay
  · exact stay

theorem skipFirstLineEnd_isSuffix (t : Text) : skipFirstLineEnd t <:+ t := by
  unfold skipFirstLineEnd
  split
  · exact List.suffix_cons _ _
  · exact List.suffix_rfl

/-- A text in three quotes ends with three quotes, and what is read is no longer than what stands
before them. -/
theorem quotedText_tripled (given : quotedText ('"' :: '"' :: '"' :: t) = .ok (v, r)) :
    ∃ u, t = u ++ tripleQuote ++ r ∧ v.length ≤ u.length := by
  obtain ⟨⟨v', r'⟩, body, more⟩ := map_eq_ok.mp given
  obtain ⟨u, rest, bound⟩ := doubleQuoted_tripled body
  obtain ⟨front, skipped⟩ := skipFirstLineEnd_isSuffix t
  have whole : t = (front ++ u) ++ tripleQuote ++ r' := by
    rw [← skipped, rest]
    simp only [List.append_assoc]
  have longer : v'.length ≤ (front ++ u).length := by
    rw [List.length_nil, Nat.zero_add] at bound
    rw [List.length_append]
    omega
  have result := moreQuotes_tripled whole longer
  rw [more] at result
  exact result

/-- The last of three quotes in a row is not behind the closing quote, where a control character
and two more quotes follow. -/
theorem tripleQuote_before (control : isControl x = true) (few : s.count '"' ≤ 2)
    (same : t ++ '"' :: x :: s = u ++ tripleQuote ++ r) : u.length + 2 ≤ t.length := by
  have place : ∀ i : Nat, (t ++ '"' :: x :: s)[i]? = (u ++ tripleQuote ++ r)[i]? := by
    rw [same]
    exact fun _ => rfl
  have break_here : (t ++ '"' :: x :: s)[t.length + 1]? = some x := by
    rw [List.getElem?_append_right (Nat.le_add_right _ 1), Nat.add_sub_cancel_left]
    rfl
  have quotes : ∀ j < 3, (u ++ tripleQuote ++ r)[u.length + j]? = some '"' := by
    intro j within
    rw [List.append_assoc, List.getElem?_append_right (Nat.le_add_right _ _),
      Nat.add_sub_cancel_left, List.getElem?_append_left within]
    match j, within with
    | 0, _ | 1, _ | 2, _ => rfl
  have apart : ∀ j < 3, t.length + 1 ≠ u.length + j := by
    intro j within equal
    have here := quotes j within
    rw [← equal, ← place, break_here] at here
    exact ne_of_test control (by decide) (Option.some.inj here)
  have zero := apart 0 (by decide)
  have one := apart 1 (by decide)
  have two := apart 2 (by decide)
  apply Nat.le_of_not_lt
  intro beyond
  have behind : t.length + 2 ≤ u.length := by omega
  have rest : s = u.drop (t.length + 2) ++ (tripleQuote ++ r) := by
    have cut := congrArg (List.drop (t.length + 2)) same
    rw [List.append_assoc, List.drop_append_of_le_length behind] at cut
    rw [← cut, List.drop_append, List.drop_of_length_le (by omega), Nat.add_sub_cancel_left]
    rfl
  rw [rest, List.count_append, List.count_append] at few
  have three : tripleQuote.count '"' = 3 := rfl
  omega

/-- A text between quotes, with no line going on behind them, is read as it is if it is plain;
else, if it is read at all, what is read is shorter. -/
theorem quotedText_shrinks (control : isControl x = true) (few : s.count '"' ≤ 2)
    (given : quotedText ('"' :: (t ++ '"' :: x :: s)) = .ok (v, r)) :
    v.length ≤ t.length ∧ (v.length = t.length → v = t ∧ IsPlain t) := by
  by_cases triple : ∃ w, t ++ '"' :: x :: s = '"' :: '"' :: w
  · obtain ⟨w, front⟩ := triple
    rw [front] at given
    obtain ⟨u, rfl, bound⟩ := quotedText_tripled given
    have within := tripleQuote_before (u := '"' :: '"' :: u) control few front
    simp only [List.length_cons] at within
    exact ⟨by omega, by omega⟩
  · rw [quotedText_single fun w front => triple ⟨w, front⟩] at given
    obtain ⟨p, rfl, bound, exact⟩ := doubleQuoted_shrinks control given
    exact ⟨bound, exact⟩

end Recurrence.Document
