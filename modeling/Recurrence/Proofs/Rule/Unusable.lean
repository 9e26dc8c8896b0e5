import Recurrence.Proofs.Rule.Order

/-! Values of which nothing can be used. Where a key holds one value, a part with such a value is passed
over, but the reading may break off at an end. Where a key holds a list, the part holds like any other,
with an empty list: the list of an earlier part is lost, unless another part with the key follows. -/

namespace Recurrence

namespace RuleKey

/-- The value of the key is a list. -/
def IsList : RuleKey → Prop
  | byDay | byMonthDay | byMonth => True
  | frequency | interval | count | ends => False

instance : DecidablePred IsList := fun key => by cases key <;> unfold IsList <;> infer_instance

/-- Nothing in a value can be used for the key: it is no frequency, no integer, no day, or a list without
a weekday or without an integer. -/
def IsUnusable (here : DateText.Standpoint) (key : RuleKey) (value : Text) : Prop :=
  match key with
  | frequency => ∀ f : Frequency, f.name ≠ value.upper
  | interval | count => Integer.read? value = none
  | byDay => ∀ item ∈ Text.pieces ',' value, ∀ w : Weekday, w.code ≠ item.strip.upper
  | byMonthDay | byMonth => ∀ item ∈ Text.pieces ',' value, Integer.read? item = none
  | ends => ∀ d, DateText.day? here value ≠ .ok (some d)

end RuleKey

section

variable (here : DateText.Standpoint) (key : RuleKey) (part : Text) (before after : List Text)

/-- The value of a part with the key can be used. -/
def Tells : Prop := ∃ value, HasValue part key value ∧ ¬ key.IsUnusable here value

/-- A part has the key, and a value of which nothing can be used. -/
def IsIdle : Prop := ∃ value, HasValue part key value ∧ key.IsUnusable here value

/-- An unusable part between these parts takes a list away: its key holds a list, the last part with the
key in front of it tells one, no part with the key stands behind it, there is a frequency, and the parts
are read to their end. -/
structure TakesAway : Prop where
  list : key.IsList
  told : ∃ p, (before.filter (hasKey key.name)).getLast? = some p ∧ Tells here key p
  last : ∀ p ∈ after, hasKey key.name p = false
  frequency : ∃ p ∈ before ++ after, Tells here .frequency p
  readOn : ∀ p ∈ before ++ after, ¬ BreaksOff here p

/-- The reading breaks off at the part between these parts, and at none of them. -/
structure BreaksIn : Prop where
  own : BreaksOff here part
  readOn : ∀ p ∈ before ++ after, ¬ BreaksOff here p

end

/-- What stands in front of the parts of a text: nothing, or the label in any case, blanks before it
included. Where there is no label, the first part has none of its own. -/
inductive Opens : Text → List Text → Prop
  | plain {ps : List Text} (unlabelled : ∀ p ∈ ps.head?, ¬ "RRULE:".toList <+: p.strip.upper) : Opens [] ps
  | label {blanks name : Text} (blank : ∀ c ∈ blanks, isBlank c = true)
      (length : name.length = "RRULE:".toList.length) (capitals : name.upper = "RRULE:".toList)
      (ps : List Text) : Opens (blanks ++ name) ps

theorem Frequency.ofName?_eq_none_iff {t : Text} :
    ofName? t = none ↔ ∀ f : Frequency, f.name ≠ t.upper := by
  have listed : ∀ f : Frequency, f ∈ all := by
    intro f
    cases f <;> decide
  rw [ofName?, List.find?_eq_none]
  simp only [beq_iff_eq, listed, forall_const]

theorem Weekday.ofCode?_eq_none_iff {t : Text} : ofCode? t = none ↔ ∀ w : Weekday, w.code ≠ t := by
  constructor
  · rintro unknown w rfl
    rw [ofCode?_code] at unknown
    cases unknown
  · intro other
    cases found : ofCode? t with
    | none => rfl
    | some w => exact absurd (code_of_ofCode? found) (other w)

/-- Where a part has the key, it tells something or is idle by its one value. -/
theorem HasValue.tells_iff {here : DateText.Standpoint} {part value : Text} {key : RuleKey}
    (h : HasValue part key value) : Tells here key part ↔ ¬ key.IsUnusable here value := by
  constructor
  · rintro ⟨value', has', usable⟩
    rwa [h.unique has']
  · exact fun usable => ⟨value, h, usable⟩

namespace Rule

/-- The rule without the list of a key. -/
def cleared (r : Rule) : RuleKey → Rule
  | .byDay => { r with byDay := [] }
  | .byMonthDay => { r with byMonthDay := [] }
  | .byMonth => { r with byMonth := [] }
  | .frequency | .interval | .count | .ends => r

/-- There is no list of the key to be cleared. -/
def IsClear (r : Rule) : RuleKey → Prop
  | .byDay => r.byDay = []
  | .byMonthDay => r.byMonthDay = []
  | .byMonth => r.byMonth = []
  | .frequency | .interval | .count | .ends => True

open DateText (Standpoint)

variable {here : Standpoint} {r s : Rule} {key other : RuleKey} {part value : Text} {ps before after : List Text}

theorem weekdayCodes_eq_nil_iff {t : Text} :
    weekdayCodes t = [] ↔ ∀ item ∈ Text.pieces ',' t, ∀ w : Weekday, w.code ≠ item.strip.upper := by
  simp only [weekdayCodes, List.filterMap_eq_nil_iff, Option.map_eq_none_iff,
    Weekday.ofCode?_eq_none_iff]

theorem integers_eq_nil_iff {t : Text} :
    integers t = [] ↔ ∀ item ∈ Text.pieces ',' t, Integer.read? item = none := by
  rw [integers, List.filterMap_eq_nil_iff]

/-- Of a list the unusable value leaves nothing, and all else as it was. -/
theorem taking_of_isUnusable (unusable : key.IsUnusable here value) (r : Rule) :
    r.taking here key value = r.cleared key := by
  cases key with
  | frequency =>
      have unknown := Frequency.ofName?_eq_none_iff.mpr unusable
      rw [taking, withValue, unknown]
      rfl
  | interval | count =>
      rw [taking, withValue, show _ = none from unusable]
      rfl
  | byDay =>
      have nothing := weekdayCodes_eq_nil_iff.mpr unusable
      rw [taking, withValue, nothing]
      rfl
  | byMonthDay | byMonth =>
      have nothing := integers_eq_nil_iff.mpr unusable
      rw [taking, withValue, nothing]
      rfl
  | ends =>
      rw [taking_ends]
      cases told : DateText.day? here value with
      | error fault => rfl
      | ok d? =>
          cases d? with
          | none => rfl
          | some d => exact absurd told (unusable d)

theorem takingPart_of_isIdle (idle : IsIdle here key part) (r : Rule) :
    r.takingPart here part = r.cleared key := by
  obtain ⟨value, has, unusable⟩ := idle
  rw [takingPart_of_hasValue has, taking_of_isUnusable unusable]

/-! What a cleared list is worth. -/

theorem cleared_eq_self (single : ¬ key.IsList) (r : Rule) : r.cleared key = r := by
  cases key with
  | frequency | interval | count | ends => rfl
  | byDay | byMonthDay | byMonth => exact absurd trivial single

theorem agreeOn_cleared (apart : other ≠ key) (r : Rule) : AgreeOn key (r.cleared other) r := by
  cases other <;> cases key <;> first | rfl | exact absurd rfl apart

theorem AgreeOn.cleared (list : key.IsList) (r s : Rule) : AgreeOn key (r.cleared key) (s.cleared key) := by
  cases key with
  | frequency | interval | count | ends => exact absurd list id
  | byDay | byMonthDay | byMonth => rfl

theorem cleared_eq_self_iff : r.cleared key = r ↔ r.IsClear key := by
  obtain ⟨frequency, interval, byDay, byMonthDay, byMonth, count, ends⟩ := r
  cases key with
  | frequency | interval | count | ends => exact iff_of_true rfl trivial
  | byDay => exact ⟨fun same => (congrArg Rule.byDay same).symm, fun empty => by cases empty; rfl⟩
  | byMonthDay => exact ⟨fun same => (congrArg Rule.byMonthDay same).symm, fun empty => by cases empty; rfl⟩
  | byMonth => exact ⟨fun same => (congrArg Rule.byMonth same).symm, fun empty => by cases empty; rfl⟩

theorem AgreeOn.isClear_iff (h : AgreeOn key r s) : r.IsClear key ↔ s.IsClear key := by
  cases key with
  | frequency | interval | count | ends => exact Iff.rfl
  | byDay | byMonthDay | byMonth => exact Eq.congr_left h

theorem isClear_taking_iff (list : key.IsList) (r : Rule) :
    (r.taking here key value).IsClear key ↔ key.IsUnusable here value := by
  cases key with
  | frequency | interval | count | ends => exact absurd list id
  | byDay => exact weekdayCodes_eq_nil_iff
  | byMonthDay | byMonth => exact integers_eq_nil_iff

/-! Reading the parts around an unusable one. -/

theorem AgreeOn.foldl (h : AgreeOn key r s) (ps : List Text) :
    AgreeOn key (ps.foldl (Rule.takingPart here) r) (ps.foldl (Rule.takingPart here) s) := by
  induction ps generalizing r s with
  | nil => exact h
  | cons p ps ih => exact ih (h.takingPart p)

/-- Where a key holds a list, its last part tells all of it. -/
theorem agreeOn_foldl_of_hasKey (list : key.IsList) (later : ∃ p ∈ ps, hasKey key.name p = true)
    (r s : Rule) : AgreeOn key (ps.foldl (takingPart here) r) (ps.foldl (takingPart here) s) := by
  obtain ⟨p, member, keyed⟩ := later
  obtain ⟨front, back, rfl⟩ := List.append_of_mem member
  obtain ⟨value, has⟩ := exists_hasValue (hasKey_iff.mp keyed)
  rw [List.foldl_append, List.foldl_append, List.foldl_cons, List.foldl_cons,
    takingPart_of_hasValue has, takingPart_of_hasValue has]
  apply AgreeOn.foldl
  cases key with
  | frequency | interval | count | ends => exact absurd list id
  | byDay | byMonthDay | byMonth => rfl

/-- Another part with the key makes up for the list that is lost. -/
theorem foldl_cleared_of_hasKey (list : key.IsList) (later : ∃ p ∈ ps, hasKey key.name p = true)
    (r : Rule) : ps.foldl (takingPart here) (r.cleared key) = ps.foldl (takingPart here) r := by
  apply eq_of_agreeOn
  intro field
  by_cases same : field = key
  · subst same
    exact agreeOn_foldl_of_hasKey list later (r.cleared field) r
  · exact (agreeOn_cleared (Ne.symm same) r).foldl ps

/-- The parts without the key leave its field alone. -/
theorem agreeOn_foldl_self (none : ∀ p ∈ ps, hasKey key.name p = false) (r : Rule) :
    AgreeOn key (ps.foldl (takingPart here) r) r := by
  have through := @agreeOn_foldl here r r key (.refl key r) ps
  have nothing : ps.filter (hasKey key.name) = [] := by
    rw [List.filter_eq_nil_iff]
    intro p member
    rw [none p member]
    exact Bool.false_ne_true
  rwa [nothing] at through

/-- Without another part with the key the list stays lost. -/
theorem foldl_cleared (list : key.IsList) (none : ∀ p ∈ ps, hasKey key.name p = false) (r : Rule) :
    ps.foldl (takingPart here) (r.cleared key) = (ps.foldl (takingPart here) r).cleared key := by
  apply eq_of_agreeOn
  intro field
  by_cases same : field = key
  · subst same
    exact (agreeOn_foldl_self none _).trans (AgreeOn.cleared list r _)
  · have apart := agreeOn_cleared (Ne.symm same)
    exact ((apart r).foldl ps).trans (apart _).symm

theorem foldl_isIdle (idle : IsIdle here key part) (r : Rule) :
    (before ++ part :: after).foldl (takingPart here) r
      = after.foldl (takingPart here) ((before.foldl (takingPart here) r).cleared key) := by
  rw [List.foldl_append, List.foldl_cons, takingPart_of_isIdle idle]

/-- A rule is without the list of a key as long as its last part tells none. -/
theorem isClear_foldl_iff (list : key.IsList) :
    (ps.foldl (takingPart here) { frequency := none }).IsClear key
      ↔ ¬ ∃ p, (ps.filter (hasKey key.name)).getLast? = some p ∧ Tells here key p := by
  have through := @agreeOn_foldl here { frequency := none } _ key (.refl key _) ps
  rw [through.isClear_iff]
  rcases List.eq_nil_or_concat' (ps.filter (hasKey key.name)) with nothing | ⟨front, p, whole⟩
  · rw [nothing]
    apply iff_of_true
    · cases key <;> trivial
    · rintro ⟨p, absent, -⟩
      cases absent
  · have member : p ∈ ps.filter (hasKey key.name) := by
      rw [whole]
      exact List.mem_append_right front (List.mem_singleton_self p)
    have keyed := hasKey_iff.mp (List.mem_filter.mp member).2
    obtain ⟨value, has⟩ := exists_hasValue keyed
    rw [whole, List.foldl_append, List.foldl_cons, List.foldl_nil,
      takingPart_of_hasValue has, isClear_taking_iff list, List.getLast?_append]
    simp [has.tells_iff]

/-- A frequency comes in with the first part that tells one. -/
theorem isSome_frequency_takingPart (here : Standpoint) (r : Rule) (p : Text) :
    (r.takingPart here p).frequency.isSome = true
      ↔ r.frequency.isSome = true ∨ Tells here .frequency p := by
  by_cases keyed : keyText? p = some RuleKey.frequency.name
  · obtain ⟨value, has⟩ := exists_hasValue keyed
    have tells : Tells here .frequency p ↔ Frequency.ofName? value ≠ none := by
      rw [has.tells_iff, Ne, Frequency.ofName?_eq_none_iff]
      rfl
    have taken : (r.taking here .frequency value).frequency
        = (Frequency.ofName? value).or r.frequency := rfl
    rw [takingPart_of_hasValue has, tells, taken, Option.isSome_or, Bool.or_eq_true, or_comm,
      Option.isSome_iff_ne_none (o := Frequency.ofName? value)]
  · have silent : ¬ Tells here .frequency p := by
      rintro ⟨_, has, _⟩
      exact keyed has.keyText?
    have other : hasKey RuleKey.frequency.name p = false := by
      rw [← Bool.not_eq_true, hasKey_iff]
      exact keyed
    have same : (r.takingPart here p).frequency = r.frequency := agreeOn_takingPart other
    rw [same, or_iff_left silent]

theorem isSome_frequency_foldl (ps : List Text) (r : Rule) :
    (ps.foldl (takingPart here) r).frequency.isSome = true
      ↔ r.frequency.isSome = true ∨ ∃ p ∈ ps, Tells here .frequency p := by
  induction ps generalizing r with
  | nil => simp
  | cons p ps ih =>
      rw [List.foldl_cons, ih, isSome_frequency_takingPart, or_assoc]
      simp only [List.mem_cons, exists_eq_or_imp]

/-! Texts with a label. -/

theorem upper_nonblank {name : Text} (capitals : name.upper = "RRULE:".toList) :
    ∀ c ∈ name, isBlank c = false := by
  intro c member
  cases blank : isBlank c with
  | false => rfl
  | true =>
      have inCapitals : c ∈ name.upper :=
        List.mem_flatMap.mpr ⟨c, member, upperChar_of_isBlank blank ▸ List.mem_singleton_self c⟩
      have printing : ∀ c ∈ "RRULE:".toList, isBlank c = false := by decide
      rw [capitals] at inCapitals
      rw [printing c inCapitals] at blank
      exact blank.symm

/-- What is left of a text behind its label is stripped on the right only. -/
theorem parts_labelled {blanks name : Text} (blank : ∀ c ∈ blanks, isBlank c = true)
    (length : name.length = "RRULE:".toList.length) (capitals : name.upper = "RRULE:".toList)
    (t : Text) : parts (blanks ++ name ++ t) = Text.pieces ';' (t.trimRight isBlank) := by
  have printing := upper_nonblank capitals
  obtain ⟨front, c, rfl⟩ : ∃ front c, name = front ++ [c] := by
    rcases List.eq_nil_or_concat' name with rfl | whole
    · cases length
    · exact whole
  have last := printing c (List.mem_append_right front (List.mem_singleton_self c))
  have stripped : (blanks ++ (front ++ [c]) ++ t).strip = (front ++ [c]) ++ t.trimRight isBlank := by
    have leading : (blanks ++ front).dropWhile isBlank = front := by
      rw [List.dropWhile_append_of_pos blank]
      exact Text.dropWhile_eq_self fun d member => printing d (List.mem_append_left [c] member)
    rw [Text.strip, ← List.append_assoc, List.append_assoc _ [c], List.singleton_append,
      Text.trimBoth_append_cons _ _ last, leading, List.append_assoc, List.singleton_append]
  have label : "RRULE:".toList.isPrefixOf (Text.upper ((front ++ [c]) ++ t.trimRight isBlank)) = true := by
    rw [List.isPrefixOf_iff_prefix, Text.upper_append, capitals]
    exact List.prefix_append _ _
  rw [parts, stripped, label, if_pos rfl, ← length, List.drop_left]

/-- A part with a key that is known has no label of its own. -/
theorem unlabelled_of_hasValue (h : HasValue part key value) :
    ¬ "RRULE:".toList <+: part.strip.upper := by
  obtain ⟨name, behind, rfl, -, named, -⟩ := h
  intro label
  have equals : ∀ t : Text, Text.upper ('=' :: t) = '=' :: t.upper := fun _ => rfl
  rw [Text.strip, Text.trimBoth_append_cons _ _ (by decide), Text.upper_append, equals] at label
  have inName := Text.isPrefix_of_isPrefix_append_cons (by decide) label
  have inKey := Text.isPrefix_upper_strip (by decide) inName
  rw [named] at inKey
  revert inKey
  cases key <;> decide

theorem opens_insert {lead : Text} (opens : Opens lead (before ++ after)) (idle : IsIdle here key part) :
    Opens lead (before ++ part :: after) := by
  obtain ⟨value, has, -⟩ := idle
  cases opens with
  | label blank length capitals ps => exact .label blank length capitals _
  | plain unlabelled =>
      apply Opens.plain
      cases before with
      | nil =>
          rintro p ⟨⟩
          exact unlabelled_of_hasValue has
      | cons q before => exact unlabelled

/-- Reading a text is reading its parts, behind a label or not. -/
theorem foldlM_parts_opens {lead : Text} (opens : Opens lead ps) (free : ∀ p ∈ ps, ';' ∉ p)
    (here : Standpoint) (r : Rule) :
    (parts (lead ++ Text.joined [';'] ps)).foldlM (withPart here) r = ps.foldlM (withPart here) r := by
  cases opens with
  | plain unlabelled => exact foldlM_parts_unlabelled free unlabelled here r
  | label blank length capitals ps =>
      rw [parts_labelled blank length capitals]
      cases ps with
      | nil => rfl
      | cons p rest =>
          have stripped : List.map Text.strip _ = List.map Text.strip _ :=
            Text.map_trimBoth_pieces_trimRight (p := isBlank) (by decide) (List.cons_ne_nil p rest) free
          rw [← foldlM_map_strip, stripped, foldlM_map_strip]

theorem read?_opens_of_breaksOff {lead : Text} (opens : Opens lead ps) (free : ∀ p ∈ ps, ';' ∉ p)
    (breaks : ∃ p ∈ ps, BreaksOff here p) :
    read? here (lead ++ Text.joined [';'] ps) = .error .divisionImpossible := by
  rw [read?, foldlM_parts_opens opens free, foldlM_of_breaksOff breaks]
  rfl

theorem read?_opens {lead : Text} (opens : Opens lead ps) (free : ∀ p ∈ ps, ';' ∉ p)
    (readOn : ∀ p ∈ ps, ¬ BreaksOff here p) :
    read? here (lead ++ Text.joined [';'] ps)
      = .ok (if (ps.foldl (takingPart here) { frequency := none }).frequency.isSome then
          some (ps.foldl (takingPart here) { frequency := none }) else none) := by
  rw [read?, foldlM_parts_opens opens free, foldlM_of_not_breaksOff readOn]
  rfl

/-- What is read is what the parts tell, if one of them tells a frequency. -/
theorem read?_opens_eq_some_iff {lead : Text} (opens : Opens lead ps) (free : ∀ p ∈ ps, ';' ∉ p)
    (readOn : ∀ p ∈ ps, ¬ BreaksOff here p) :
    read? here (lead ++ Text.joined [';'] ps) = .ok (some r)
      ↔ ps.foldl (takingPart here) { frequency := none } = r ∧ ∃ p ∈ ps, Tells here .frequency p := by
  have ruled : (ps.foldl (takingPart here) { frequency := none }).frequency.isSome = true
      ↔ ∃ p ∈ ps, Tells here .frequency p :=
    (isSome_frequency_foldl ps _).trans (or_iff_right Bool.false_ne_true)
  rw [read?_opens opens free readOn, ← ruled, Except.ok.injEq]
  split
  · rename_i some_
    rw [Option.some.injEq]
    exact (and_iff_left some_).symm
  · rename_i none_
    exact iff_of_false (Option.some_ne_none r).symm fun told => absurd told.2 none_

theorem mem_insert {p : Text} (member : p ∈ before ++ after) : p ∈ before ++ part :: after := by
  rw [List.mem_append] at member ⊢
  exact member.imp id (List.mem_cons_of_mem part)

theorem forall_mem_of_insert {P : Text → Prop} (h : ∀ p ∈ before ++ part :: after, P p) :
    ∀ p ∈ before ++ after, P p := fun p member => h p (mem_insert member)

theorem forall_mem_insert {P : Text → Prop} (h : ∀ p ∈ before ++ after, P p) (own : P part) :
    ∀ p ∈ before ++ part :: after, P p := by
  intro p member
  rcases List.mem_append.mp member with front | back
  · exact h p (List.mem_append_left after front)
  · rcases List.mem_cons.mp back with rfl | later
    · exact own
    · exact h p (List.mem_append_right before later)

/-- Where the parts are read to their end, the rule that is read around an unusable part is the same as
without it, or the key holds a list, no other part with it follows, and the rule is the same less that
list. -/
theorem read?_insert {lead : Text} (idle : IsIdle here key part)
    (free : ∀ p ∈ before ++ part :: after, ';' ∉ p) (opens : Opens lead (before ++ after))
    (readOn : ∀ p ∈ before ++ part :: after, ¬ BreaksOff here p) :
    read? here (lead ++ Text.joined [';'] (before ++ part :: after))
      = if key.IsList ∧ ∀ p ∈ after, hasKey key.name p = false then
          (read? here (lead ++ Text.joined [';'] (before ++ after))).map fun r? =>
            r?.map fun r => r.cleared key
        else read? here (lead ++ Text.joined [';'] (before ++ after)) := by
  rw [read?_opens (opens_insert opens idle) free readOn,
    read?_opens opens (forall_mem_of_insert free) (forall_mem_of_insert readOn), foldl_isIdle idle,
    List.foldl_append]
  generalize before.foldl (takingPart here) { frequency := none } = front
  by_cases lasting : key.IsList ∧ ∀ p ∈ after, hasKey key.name p = false
  · have frequency : ∀ r : Rule, (r.cleared key).frequency = r.frequency := by
      intro r
      cases key <;> rfl
    rw [if_pos lasting, foldl_cleared lasting.1 lasting.2, frequency]
    split <;> rfl
  · have same : after.foldl (takingPart here) (front.cleared key)
        = after.foldl (takingPart here) front := by
      by_cases list : key.IsList
      · apply foldl_cleared_of_hasKey list
        by_contra none
        apply lasting
        refine ⟨list, fun p member => ?_⟩
        rw [← Bool.not_eq_true]
        exact fun keyed => none ⟨p, member, keyed⟩
      · rw [cleared_eq_self list]
    rw [if_neg lasting, same]

/-- The list that is read with the last part in front is there, unless that part tells none. -/
theorem isClear_foldl_append_iff (list : key.IsList) (last : ∀ p ∈ after, hasKey key.name p = false) :
    ((before ++ after).foldl (takingPart here) { frequency := none }).IsClear key
      ↔ ¬ ∃ p, (before.filter (hasKey key.name)).getLast? = some p ∧ Tells here key p := by
  rw [List.foldl_append, (agreeOn_foldl_self last _).isClear_iff, isClear_foldl_iff list]

/-- Where the parts are read to their end, an unusable part between them changes what is read just where it
takes away a list. -/
theorem read?_insert_iff {lead : Text} (idle : IsIdle here key part)
    (free : ∀ p ∈ before ++ part :: after, ';' ∉ p) (opens : Opens lead (before ++ after))
    (readOn : ∀ p ∈ before ++ part :: after, ¬ BreaksOff here p) :
    let whole := read? here (lead ++ Text.joined [';'] (before ++ part :: after))
    let rest := read? here (lead ++ Text.joined [';'] (before ++ after))
    (whole = rest ↔ ¬ TakesAway here key before after)
      ∧ (TakesAway here key before after → whole = rest.map fun r? => r?.map fun r => r.cleared key) := by
  intro whole rest
  have free' := forall_mem_of_insert free
  have readOn' := forall_mem_of_insert readOn
  have inserted : whole = if key.IsList ∧ ∀ p ∈ after, hasKey key.name p = false then
      rest.map fun r? => r?.map fun r : Rule => r.cleared key else rest :=
    read?_insert idle free opens readOn
  by_cases lasting : key.IsList ∧ ∀ p ∈ after, hasKey key.name p = false
  · obtain ⟨list, last⟩ := lasting
    rw [if_pos ⟨list, last⟩] at inserted
    refine ⟨?_, fun _ => inserted⟩
    have read : ∀ r, rest = .ok (some r) ↔ _ := fun r => read?_opens_eq_some_iff opens free' readOn'
    have clear := @isClear_foldl_append_iff here key before after list last
    obtain ⟨r?, given⟩ : ∃ r?, rest = .ok r? := ⟨_, read?_opens opens free' readOn'⟩
    rw [inserted, given]
    cases r? with
    | none =>
        refine iff_of_true rfl fun taken => ?_
        have some_ := (read _).mpr ⟨rfl, taken.frequency⟩
        rw [given] at some_
        cases some_
    | some r =>
        obtain ⟨rfl, frequency⟩ := (read r).mp given
        rw [Except.map, Option.map_some, Except.ok.injEq, Option.some.injEq, cleared_eq_self_iff, clear]
        exact not_congr ⟨fun told => ⟨list, told, last, frequency, readOn'⟩, TakesAway.told⟩
  · have kept : ¬ TakesAway here key before after := fun taken => lasting ⟨taken.list, taken.last⟩
    rw [if_neg lasting] at inserted
    exact ⟨iff_of_true inserted kept, fun taken => absurd taken kept⟩

/-- Only the part of an end breaks the reading off. -/
theorem not_isList_of_breaksOff (idle : IsIdle here key part) (breaks : BreaksOff here part) :
    ¬ key.IsList := by
  obtain ⟨_, has, -⟩ := idle
  obtain ⟨_, has', -⟩ := breaks
  have same : key = .ends := RuleKey.name_inj.mp (Option.some.inj (has.keyText?.symm.trans has'.keyText?))
  rw [same]
  exact id

/-- A text with an unusable part is read as the text without it, unless the part takes away a list or the
reading breaks off at it alone. In the one case the rule is the one that is read without it, less that
list; in the other nothing is read. -/
theorem read?_unusable_iff {lead : Text} (idle : IsIdle here key part)
    (free : ∀ p ∈ before ++ part :: after, ';' ∉ p) (opens : Opens lead (before ++ after)) :
    let whole := read? here (lead ++ Text.joined [';'] (before ++ part :: after))
    let rest := read? here (lead ++ Text.joined [';'] (before ++ after))
    (whole = rest ↔ ¬ TakesAway here key before after ∧ ¬ BreaksIn here part before after)
      ∧ (TakesAway here key before after → whole = rest.map fun r? => r?.map fun r => r.cleared key)
      ∧ (BreaksIn here part before after → whole = .error .divisionImpossible) := by
  intro whole rest
  have free' := forall_mem_of_insert free
  by_cases readOn' : ∀ p ∈ before ++ after, ¬ BreaksOff here p
  · by_cases own : BreaksOff here part
    · have broken : whole = .error .divisionImpossible :=
        read?_opens_of_breaksOff (opens_insert opens idle) free
          ⟨part, List.mem_append_right before List.mem_cons_self, own⟩
      have other : ¬ TakesAway here key before after := fun taken =>
        not_isList_of_breaksOff idle own taken.list
      have told : rest = .ok _ := read?_opens opens free' readOn'
      refine ⟨iff_of_false ?_ fun apart => apart.2 ⟨own, readOn'⟩, fun taken => absurd taken other,
        fun _ => broken⟩
      rw [broken, told]
      exact nofun
    · have readOn : ∀ p ∈ before ++ part :: after, ¬ BreaksOff here p :=
        forall_mem_insert readOn' own
      have whole' : ¬ BreaksIn here part before after := fun broken => own broken.own
      obtain ⟨same, less⟩ := read?_insert_iff idle free opens readOn
      exact ⟨same.trans (and_iff_left whole').symm, less, fun broken => absurd broken whole'⟩
  · obtain ⟨p, member, breaks⟩ : ∃ p ∈ before ++ after, BreaksOff here p := by
      by_contra none
      exact readOn' fun p member breaks => none ⟨p, member, breaks⟩
    have broken : whole = .error .divisionImpossible :=
      read?_opens_of_breaksOff (opens_insert opens idle) free ⟨p, mem_insert member, breaks⟩
    have broken' : rest = .error .divisionImpossible :=
      read?_opens_of_breaksOff opens free' ⟨p, member, breaks⟩
    refine ⟨iff_of_true (broken.trans broken'.symm) ⟨fun taken => readOn' taken.readOn,
      fun alone => readOn' alone.readOn⟩, fun taken => absurd taken.readOn readOn', fun _ => broken⟩

/-- A weekday that there is not, behind the Mondays of a weekly rule, takes the Mondays away. -/
theorem read?_unusable_weekday :
    let weekly := "FREQ=WEEKLY".toList
    let mondays := "BYDAY=MO".toList
    let unknown := "BYDAY=XX".toList
    let rule : Rule := { frequency := some .weekly, byDay := ["MO".toList] }
    IsIdle .first .byDay unknown ∧ (∀ p ∈ [weekly, mondays, unknown], ';' ∉ p)
      ∧ Opens [] [weekly, mondays] ∧ TakesAway .first .byDay [weekly, mondays] []
      ∧ read? .first (Text.joined [';'] [weekly, mondays]) = .ok (some rule)
      ∧ read? .first (Text.joined [';'] [weekly, mondays, unknown]) = .ok (some (rule.cleared .byDay))
      ∧ rule.cleared .byDay ≠ rule := by
  intro weekly mondays unknown rule
  have idle : IsIdle .first .byDay unknown :=
    ⟨"XX".toList, ⟨"BYDAY".toList, "XX".toList, rfl, by decide, by decide, by decide⟩,
      weekdayCodes_eq_nil_iff.mp (by decide)⟩
  have free : ∀ p ∈ [weekly, mondays] ++ unknown :: [], ';' ∉ p := by decide
  have opens : Opens [] ([weekly, mondays] ++ []) := by
    apply Opens.plain
    rintro p ⟨⟩
    decide
  have told : Tells .first .byDay mondays := by
    refine ⟨"MO".toList, ⟨"BYDAY".toList, "MO".toList, rfl, by decide, by decide, by decide⟩, ?_⟩
    intro unusable
    exact absurd (weekdayCodes_eq_nil_iff.mpr unusable) (by decide)
  have frequency : Tells .first .frequency weekly := by
    refine ⟨"WEEKLY".toList, ⟨"FREQ".toList, "WEEKLY".toList, rfl, by decide, by decide, by decide⟩, ?_⟩
    intro unusable
    exact unusable .weekly (by decide)
  have readOn : ∀ p ∈ [weekly, mondays] ++ [], ¬ BreaksOff .first p := by
    rintro p member ⟨_, has, -⟩
    have other : ∀ p ∈ [weekly, mondays], keyText? p ≠ some RuleKey.ends.name := by decide
    exact other p member has.keyText?
  have taken : TakesAway .first .byDay [weekly, mondays] [] :=
    ⟨trivial, ⟨mondays, by decide, told⟩, nofun, ⟨weekly, List.mem_cons_self, frequency⟩, readOn⟩
  have read : read? .first (Text.joined [';'] [weekly, mondays]) = .ok (some rule) := by
    decide +kernel
  have whole := (read?_unusable_iff idle free opens).2.1 taken
  exact ⟨idle, free, opens, taken, read, whole.trans (congrArg _ read), by decide⟩

example : read? .first "FREQ=DAILY;UNTIL=11111111111111111111111111111h".toList
    = .error .divisionImpossible := by decide +kernel

end Rule

end Recurrence
