import Mathlib.Data.List.DropRight
import Recurrence.Proofs.Text.Case
import Recurrence.Proofs.Text.Cut

/-! Stripping a text that is made of parts. What is blank at its ends is blank at an end of its first
or last part, so the parts, once they are stripped themselves, are as they were. -/

namespace Recurrence

/-- Blanks have no other capitals. -/
theorem upperChar_of_isBlank {c : Char} (blank : isBlank c = true) : upperChar c = [c] := by
  have low : ∀ b ∈ blankRanges, b.2 < 97 ∨ 128 ≤ b.1 := by decide
  have long : ∀ b ∈ blankRanges, ∀ e ∈ longCapitals, e.1 < b.1 ∨ b.2 < e.1 := by decide +kernel
  have runs : ∀ b ∈ blankRanges, ∀ r ∈ upperRuns, b.2 < r.1 ∨ r.2.1 < b.1 := by decide +kernel
  obtain ⟨b, range, within⟩ := List.any_eq_true.mp blank
  rw [Bool.and_eq_true, decide_eq_true_eq, decide_eq_true_eq] at within
  have script := low b range
  have unlisted : longCapitals.find? (fun e => e.1 == c.toNat) = none := by
    apply List.find?_eq_none.mpr
    intro e listed same
    have := long b range e listed
    rw [beq_iff_eq] at same
    omega
  rw [upperChar]
  split
  · rw [toUpper_eq_self (by omega)]
  · rw [unlisted]
    dsimp only
    rw [shiftBy_eq_self, Char.ofNat_toNat]
    intro r run
    have := runs b range r run
    omega

namespace Text

variable {p : Char → Bool} {sep c : Char} {t : Text} {parts : List Text}

theorem dropWhile_append_cons (s rest : Text) (h : p c = false) :
    (s ++ c :: rest).dropWhile p = s.dropWhile p ++ c :: rest := by
  have kept : (c :: rest).dropWhile p = c :: rest := by
    rw [List.dropWhile_cons, h, if_neg Bool.false_ne_true]
  rw [List.dropWhile_append, kept]
  split
  · rename_i empty
    rw [List.isEmpty_iff.mp empty, List.nil_append]
  · rfl

theorem trimRight_append_cons (s rest : Text) (h : p c = false) :
    (s ++ c :: rest).trimRight p = s ++ c :: rest.trimRight p := by
  have backwards : (s ++ c :: rest).reverse = rest.reverse ++ c :: s.reverse := by
    rw [List.reverse_append, List.reverse_cons, List.append_assoc, List.singleton_append]
  rw [trimRight, backwards, dropWhile_append_cons _ _ h, trimRight, List.reverse_append,
    List.reverse_cons, List.reverse_reverse, List.append_assoc, List.singleton_append]

/-- A character that is not dropped keeps what stands around it from being dropped from the other
side. -/
theorem trimBoth_append_cons (s rest : Text) (h : p c = false) :
    (s ++ c :: rest).trimBoth p = s.dropWhile p ++ c :: rest.trimRight p := by
  rw [trimBoth, dropWhile_append_cons s rest h, trimRight_append_cons _ _ h]

/-! Trimming on the right is the library's `rdropWhile`, and what it drops is `rtakeWhile`. -/

theorem exists_trimRight (p : Char → Bool) (t : Text) :
    ∃ dropped, t = t.trimRight p ++ dropped ∧ ∀ c ∈ dropped, p c = true :=
  ⟨t.rtakeWhile p, List.rdropWhile_append_rtakeWhile.symm, fun _ => List.mem_rtakeWhile_imp⟩

theorem trimRight_append_of_pos (s : Text) {dropped : Text} (h : ∀ c ∈ dropped, p c = true) :
    (s ++ dropped).trimRight p = s.trimRight p := by
  have backwards : ∀ c ∈ dropped.reverse, p c = true := fun c member => h c (List.mem_reverse.mp member)
  rw [trimRight, trimRight, List.reverse_append, List.dropWhile_append_of_pos backwards]

@[simp] theorem trimBoth_dropWhile (p : Char → Bool) (t : Text) :
    trimBoth p (t.dropWhile p) = t.trimBoth p := by
  rw [trimBoth, trimBoth, List.dropWhile_idempotent]

@[simp] theorem trimBoth_trimRight (p : Char → Bool) (t : Text) :
    trimBoth p (t.trimRight p) = t.trimBoth p := by
  obtain ⟨dropped, whole, all⟩ := exists_trimRight p t
  have nothing : dropped.dropWhile p = [] := List.dropWhile_eq_nil_iff.mpr all
  conv => rhs; rw [whole]
  rw [trimBoth, trimBoth, List.dropWhile_append]
  split
  · rename_i empty
    rw [nothing, List.isEmpty_iff.mp empty]
  · rw [trimRight_append_of_pos _ all]

/-- Blanks around a text are stripped with its own. -/
theorem strip_append_blanks {front back : Text} (ahead : ∀ c ∈ front, isBlank c = true)
    (behind : ∀ c ∈ back, isBlank c = true) : strip (front ++ t ++ back) = t.strip := by
  have bare : trimBoth isBlank (front ++ (t ++ back)) = trimBoth isBlank (t ++ back) := by
    rw [trimBoth, List.dropWhile_append_of_pos ahead, trimBoth]
  rw [strip, List.append_assoc, bare, ← trimBoth_trimRight, trimRight_append_of_pos t behind,
    trimBoth_trimRight, strip]

theorem mem_of_mem_trimRight (h : c ∈ t.trimRight p) : c ∈ t := (List.rdropWhile_prefix p t).subset h

theorem mem_of_mem_trimBoth (h : c ∈ t.trimBoth p) : c ∈ t :=
  (List.dropWhile_suffix p).subset (mem_of_mem_trimRight h)

/-! Joined parts with a separator that is not dropped. -/

theorem trimBoth_joined (part : Text) (parts : List Text) (h : p sep = false) :
    trimBoth p (joined [sep] (part :: parts)) = trimRight p (joined [sep] (part.dropWhile p :: parts)) := by
  cases parts with
  | nil => rw [joined_singleton, joined_singleton, trimBoth]
  | cons next parts =>
      rw [joined_cons_cons, joined_cons_cons, List.singleton_append, trimBoth,
        dropWhile_append_cons _ _ h]

theorem map_trimBoth_pieces_trimRight (h : p sep = false) (nonempty : parts ≠ [])
    (free : ∀ q ∈ parts, sep ∉ q) :
    (pieces sep (trimRight p (joined [sep] parts))).map (trimBoth p) = parts.map (trimBoth p) := by
  induction parts with
  | nil => exact absurd rfl nonempty
  | cons q rest ih =>
      have first := free q List.mem_cons_self
      cases rest with
      | nil =>
          rw [joined_singleton, pieces_eq_self fun inside => first (mem_of_mem_trimRight inside),
            List.map_singleton, List.map_singleton, trimBoth_trimRight]
      | cons next rest =>
          have further := ih (List.cons_ne_nil next rest) fun q' later =>
            free q' (List.mem_cons_of_mem q later)
          rw [joined_cons_cons, List.singleton_append, trimRight_append_cons _ _ h,
            pieces_append _ first, List.map_cons, further]
          rfl

/-- A text that is made of parts may be stripped before it is cut or after. -/
theorem map_strip_pieces (h : isBlank sep = false) (nonempty : parts ≠ [])
    (free : ∀ q ∈ parts, sep ∉ q) :
    (pieces sep (joined [sep] parts).strip).map strip = parts.map strip := by
  cases parts with
  | nil => exact absurd rfl nonempty
  | cons q rest =>
      have bare : ∀ q' ∈ q.dropWhile isBlank :: rest, sep ∉ q' := by
        intro q' member inside
        rcases List.mem_cons.mp member with rfl | later
        · exact free q List.mem_cons_self ((List.dropWhile_suffix isBlank).subset inside)
        · exact free q' (List.mem_cons_of_mem q later) inside
      have pieces := map_trimBoth_pieces_trimRight h (List.cons_ne_nil _ rest) bare
      rw [List.map_cons, trimBoth_dropWhile] at pieces
      rw [strip, trimBoth_joined q rest h]
      exact pieces

/-! Where a text begins with a label. -/

/-- A label does not reach beyond a character that it does not have. -/
theorem isPrefix_of_isPrefix_append_cons {label s rest : Text} (absent : c ∉ label)
    (h : label <+: s ++ c :: rest) : label <+: s := by
  rcases List.prefix_or_prefix_of_prefix h (List.prefix_append s (c :: rest)) with front | ⟨more, rfl⟩
  · exact front
  · cases more with
    | nil => simp only [List.append_nil, List.prefix_rfl]
    | cons d more =>
        obtain ⟨rfl, -⟩ := List.cons_prefix_cons.mp ((List.prefix_append_right_inj s).mp h)
        exact absurd (List.mem_append_right s List.mem_cons_self) absent

theorem upper_append (s t : Text) : (s ++ t).upper = s.upper ++ t.upper := List.flatMap_append

/-- Blanks behind a text do not make it begin with a label. -/
theorem isPrefix_upper_strip {label : Text} (printing : ∀ c ∈ label, isBlank c = false)
    (h : label <+: upper (t.dropWhile isBlank)) : label <+: t.strip.upper := by
  obtain ⟨dropped, whole, blank⟩ := exists_trimRight isBlank (t.dropWhile isBlank)
  have stripped : t.strip = trimRight isBlank (t.dropWhile isBlank) := rfl
  rw [whole, ← stripped, upper_append] at h
  cases dropped with
  | nil => exact List.append_nil (upper t.strip) ▸ h
  | cons c rest =>
      have blankFirst := blank c List.mem_cons_self
      have capitals : upper (c :: rest) = c :: upper rest := by
        rw [upper, List.flatMap_cons, upperChar_of_isBlank blankFirst]
        rfl
      rw [capitals] at h
      apply isPrefix_of_isPrefix_append_cons _ h
      intro inside
      rw [printing c inside] at blankFirst
      cases blankFirst

end Text

end Recurrence
