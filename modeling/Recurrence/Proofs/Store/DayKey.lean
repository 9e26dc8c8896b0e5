import Recurrence.Proofs.DateText.Ordering
import Recurrence.Proofs.Store.Tables

/-! The text of a day as a key. The store tells the exceptions of an event apart and sorts them by these
texts. Different days have different texts, of whatever years and lengths, so an exception never takes
the place of another day's; and from the year 1000 on the texts stand in the order of the days and are
read back as the days they were written for. -/

namespace Recurrence

/-- The first text comes before the second when they are compared character by character. -/
def Text.Before (a b : Text) : Prop := List.Lex (fun c d => c.toNat < d.toNat) a b

theorem Text.notAfter_iff_before {a b : Text} : a.notAfter b = true ↔ a = b ∨ a.Before b := by
  induction a generalizing b with
  | nil =>
      cases b with
      | nil => exact iff_of_true rfl (.inl rfl)
      | cons d s => exact iff_of_true rfl (.inr .nil)
  | cons c r ih =>
      cases b with
      | nil => exact ⟨nofun, nofun⟩
      | cons d s =>
          rw [notAfter]
          split
          · rename_i same
            subst same
            rw [ih]
            constructor
            · rintro (rfl | before)
              · exact .inl rfl
              · exact .inr (.cons before)
            · rintro (same | before)
              · exact .inl (List.tail_eq_of_cons_eq same)
              · cases before with
                | cons before => exact .inr before
                | rel less => exact absurd less (Nat.lt_irrefl _)
          · rename_i apart
            rw [decide_eq_true_iff]
            constructor
            · exact fun less => .inr (.rel less)
            · rintro (same | before)
              · exact absurd (List.head_eq_of_cons_eq same) apart
              · cases before with
                | cons before => exact absurd rfl apart
                | rel less => exact less

theorem Text.not_before_self (a : Text) : ¬ a.Before a :=
  List.lex_irrefl (fun c => Nat.lt_irrefl c.toNat) a

/-- One text comes before another where the other may not stand in front of it. -/
theorem Text.before_iff {a b : Text} : a.Before b ↔ b.notAfter a = false := by
  constructor
  · intro before
    by_contra behind
    have same := notAfter_antisymm (notAfter_iff_before.mpr (.inr before)) (Bool.not_eq_false _ ▸ behind)
    exact not_before_self a (same ▸ before)
  · intro behind
    have either := notAfter_total a b
    rw [behind, Bool.or_false] at either
    rcases notAfter_iff_before.mp either with rfl | before
    · rw [notAfter_refl] at behind
      cases behind
    · exact before

namespace Tables

variable {t t' : Tables} {parent : Int} {date : Text} {kind : OverrideKind} {replacement : Option Int}

/-- What is put for a day is found there, and what was found under any other key is found as before. -/
theorem exceptionOn?_putException (put : t.putException parent date kind replacement = .ok t') :
    (∃ x, t'.exceptionOn? parent date = some x ∧ x.kind = kind ∧ x.replacement = replacement)
      ∧ ∀ id key, (id, key) ≠ (parent, date) → t'.exceptionOn? id key = t.exceptionOn? id key := by
  unfold putException at put
  obtain ⟨new, -, put⟩ := bind_eq_ok.mp put
  split at put
  · cases put
  · split at put
    · rename_i there
      obtain ⟨old, found⟩ := Option.isSome_iff_exists.mp there
      cases put
      have keys : ∀ id key, (fun x : ExceptionRow => x.parent == id && x.date == key) ∘ (fun x =>
          if x.parent == parent && x.date == date then { x with kind, replacement } else x)
            = fun x => x.parent == id && x.date == key := by
        intro id key
        funext x
        dsimp only [Function.comp_apply]
        split <;> rfl
      simp only [exceptionOn?, List.find?_map, keys]
      constructor
      · rw [exceptionOn?] at found
        have here := List.find?_some found
        rw [found, Option.map_some, if_pos here]
        exact ⟨_, rfl, rfl, rfl⟩
      · intro id key apart
        cases other : t.exceptions.find? fun x => x.parent == id && x.date == key with
        | none => rfl
        | some x =>
            have place := List.find?_some other
            rw [Option.map_some, if_neg]
            intro here
            simp only [Bool.and_eq_true, beq_iff_eq] at here place
            exact apart (Prod.ext (place.1.symm.trans here.1) (place.2.symm.trans here.2))
    · rename_i free
      cases put
      simp only [exceptionOn?, List.find?_append]
      constructor
      · rw [Option.not_isSome_iff_eq_none, exceptionOn?] at free
        rw [free, Option.none_or, List.find?_singleton]
        simp
      · intro id key apart
        have elsewhere : (parent == id && date == key) = false := by
          rw [Bool.and_eq_false_iff, beq_eq_false_iff_ne, beq_eq_false_iff_ne]
          by_contra both
          rw [not_or, not_not, not_not] at both
          exact apart (Prod.ext both.1.symm both.2.symm)
        rw [List.find?_singleton, elsewhere]
        simp

end Tables

/-- Compact dates are keys of the days of all years: an exception is kept apart from those of other days.
From the year 1000 on they are ordered as the days are, and read back. -/
theorem compactText_isKey :
    (∀ d e : Date, d.compactText = e.compactText → d = e)
      ∧ (∀ (t t' : Tables) (parent : Int) (d : Date) (kind : OverrideKind) (replacement : Option Int),
        t.putException parent d.compactText kind replacement = .ok t' →
          (∃ x, t'.exceptionOn? parent d.compactText = some x ∧ x.kind = kind
            ∧ x.replacement = replacement)
          ∧ ∀ id e, (id, e) ≠ (parent, d) →
            t'.exceptionOn? id e.compactText = t.exceptionOn? id e.compactText)
      ∧ (∀ d e : Date, 1000 ≤ d.year → 1000 ≤ e.year →
        (d.compactText.Before e.compactText ↔ d < e)
          ∧ (d.compactText.notAfter e.compactText = true ↔ d ≤ e))
      ∧ ∀ (d : Date) (here : DateText.Standpoint), 1000 ≤ d.year →
        DateText.day? here d.compactText = .ok (some d) := by
  refine ⟨fun d e => Date.compactText_inj.mp, ?_, ?_, fun d here year => DateText.day?_compactText year here⟩
  · intro t t' parent d kind replacement put
    obtain ⟨here, elsewhere⟩ := Tables.exceptionOn?_putException put
    refine ⟨here, fun id e apart => elsewhere id e.compactText ?_⟩
    intro same
    obtain ⟨event, text⟩ := Prod.mk.inj same
    exact apart (Prod.ext event (Date.compactText_inj.mp text))
  · intro d e hd he
    refine ⟨?_, Date.notAfter_compactText hd he⟩
    have behind := Date.notAfter_compactText he hd
    rw [Text.before_iff, ← Bool.not_eq_true, behind, Date.le_iff, Date.lt_iff, Nat.not_le]

/-- Beside the exception of a day of the year 99, whose text is the end of that of the same day of 1999, the
other is put. The texts of the first and the last day of the years of four digits are in order. -/
theorem compactText_isKey_ninetyNine :
    let early : Date := ⟨99, 1, 5, by decide⟩
    let late : Date := ⟨1999, 1, 5, by decide⟩
    let t : Tables := {
      events := [⟨1, [], [], [], none, none, none, none, [], []⟩]
      exceptions := [⟨1, 1, early.compactText, .cancelled, none⟩]
      lastEvent := 1
      lastException := 1 }
    (∃ t', t.putException 1 late.compactText .modified none = .ok t'
        ∧ t'.exceptionOn? 1 early.compactText = some ⟨1, 1, early.compactText, .cancelled, none⟩)
      ∧ Text.Before "10000101".toList "99991231".toList
      ∧ DateText.day? .first late.compactText = .ok (some late) := by
  intro early late t
  obtain ⟨-, kept, ordered, readBack⟩ := compactText_isKey
  have stored : t.exceptionOn? 1 early.compactText = some ⟨1, 1, early.compactText, .cancelled, none⟩ := by
    decide
  have apart : t.exceptionOn? 1 late.compactText = none := by decide
  obtain ⟨t', put⟩ : ∃ t', t.putException 1 late.compactText .modified none = .ok t' := by
    unfold Tables.putException
    rw [apart]
    exact ⟨_, rfl⟩
  refine ⟨⟨t', put, ?_⟩, ?_, readBack late .first (by decide)⟩
  · exact ((kept t t' 1 late .modified none put).2 1 early (by decide)).trans stored
  · exact (ordered ⟨1000, 1, 1, by decide⟩ ⟨9999, 12, 31, by decide⟩ (by decide) (by decide)).1.mpr (by decide)

end Recurrence
