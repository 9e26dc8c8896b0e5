import Recurrence.Proofs.Rule.RoundTrip
import Recurrence.Proofs.Text.Strip

/-! How a rule text is read part by part. A part whose key is not known is passed over; any other
bears on nothing but the field of its key. The reading breaks off at a part that tells an end with a
number that cannot be divided, whatever stands around it, and at no other. -/

namespace Recurrence

/-- The key of a part as it stands there: the text in front of its first equals sign, in capitals and
without blanks around it. -/
def keyText? (part : Text) : Option Text := (part.cut? '=').map fun cut => cut.1.strip.upper

def hasKey (key part : Text) : Bool := keyText? part == some key

/-- The part has a key, and it is one of the known ones. -/
def IsKeyed (part : Text) : Prop := ∃ key : RuleKey, keyText? part = some key.name

/-- A part has a key in front of its first equals sign, in any case, and a value behind it; blanks around
them do not count. -/
def HasValue (part : Text) (key : RuleKey) (value : Text) : Prop :=
  ∃ name behind : Text, part = name ++ '=' :: behind ∧ '=' ∉ name ∧ name.strip.upper = key.name
    ∧ behind.strip = value

/-- The reading breaks off at the part. -/
def BreaksOff (here : DateText.Standpoint) (part : Text) : Prop :=
  ∃ value, HasValue part .ends value ∧ DateText.day? here value = .error .divisionImpossible

theorem RuleKey.ofName?_eq_some_iff {t : Text} {key : RuleKey} :
    ofName? t = some key ↔ t.strip.upper = key.name := by
  constructor
  · intro found
    have same := List.find?_some found
    exact (beq_iff_eq.mp same).symm
  · intro same
    rw [ofName?, same]
    cases key <;> decide

theorem RuleKey.name_inj {key other : RuleKey} : key.name = other.name ↔ key = other := by
  constructor
  · intro same
    have read := congrArg ofName? same
    rw [ofName?_name, ofName?_name] at read
    exact Option.some.inj read
  · exact congrArg name

theorem hasKey_iff {key part : Text} : hasKey key part = true ↔ keyText? part = some key := beq_iff_eq

theorem HasValue.keyText? {part value : Text} {key : RuleKey} (h : HasValue part key value) :
    keyText? part = some key.name := by
  obtain ⟨name, behind, rfl, free, named, -⟩ := h
  rw [Recurrence.keyText?, Text.cut?_append behind free, ← named]
  rfl

/-- A part has one value. -/
theorem HasValue.unique {part value value' : Text} {key : RuleKey} (h : HasValue part key value)
    (h' : HasValue part key value') : value = value' := by
  obtain ⟨name, behind, rfl, free, -, rfl⟩ := h
  obtain ⟨name', behind', same, free', -, rfl⟩ := h'
  have cut := Text.cut?_append behind free
  rw [same, Text.cut?_append behind' free'] at cut
  cases cut
  rfl

theorem exists_hasValue {part : Text} {key : RuleKey} (keyed : keyText? part = some key.name) :
    ∃ value, HasValue part key value := by
  by_cases equals : '=' ∈ part
  · obtain ⟨name, behind, rfl, free⟩ := List.eq_append_cons_of_mem equals
    rw [keyText?, Text.cut?_append behind free] at keyed
    exact ⟨Text.strip behind, name, behind, rfl, free, Option.some.inj keyed, rfl⟩
  · rw [keyText?, Text.cut?_eq_none equals] at keyed
    cases keyed

theorem DateText.day?_eq_error {here : DateText.Standpoint} {t : Text} {fault : Fault}
    (h : DateText.day? here t = .error fault) : fault = .divisionImpossible := by
  unfold day? at h
  split at h
  · cases h
  · unfold moment? at h
    split at h
    · cases h
    · cases h
    · exact (Except.error.inj h).symm

namespace Rule

open DateText (Standpoint)

variable {here : Standpoint} {r s : Rule} {key : RuleKey} {part value : Text} {ps : List Text}

/-- A value is all that a part with a key bears on the rule. -/
theorem withPart_of_hasValue (h : HasValue part key value) (here : Standpoint) (r : Rule) :
    r.withPart here part = r.withValue here key value := by
  obtain ⟨name, behind, rfl, free, named, rfl⟩ := h
  simp only [withPart, Text.cut?_append behind free, RuleKey.ofName?_eq_some_iff.mpr named]

theorem withPart_of_not_isKeyed (h : ¬ IsKeyed part) (here : Standpoint) (r : Rule) :
    r.withPart here part = .ok r := by
  cases cut : part.cut? '=' with
  | none => rw [withPart, cut]
  | some nameAndValue =>
      obtain ⟨name, value⟩ := nameAndValue
      have text : keyText? part = some name.strip.upper := by rw [keyText?, cut, Option.map_some]
      cases found : RuleKey.ofName? name with
      | none => simp only [withPart, cut, found]
      | some key =>
          rw [RuleKey.ofName?_eq_some_iff] at found
          exact absurd ⟨key, text.trans (congrArg some found)⟩ h

/-! What a part tells where the reading goes on. -/

/-- The rule after a value. A value at which the reading breaks off is left out. -/
def taking (here : Standpoint) (r : Rule) (key : RuleKey) (value : Text) : Rule :=
  (r.withValue here key value).toOption.getD r

/-- The rule after a part. A part at which the reading breaks off is left out. -/
def takingPart (here : Standpoint) (r : Rule) (part : Text) : Rule :=
  (r.withPart here part).toOption.getD r

theorem takingPart_of_hasValue (h : HasValue part key value) (here : Standpoint) (r : Rule) :
    r.takingPart here part = r.taking here key value := by
  rw [takingPart, taking, withPart_of_hasValue h]

theorem takingPart_of_not_isKeyed (h : ¬ IsKeyed part) (here : Standpoint) (r : Rule) :
    r.takingPart here part = r := by
  rw [takingPart, withPart_of_not_isKeyed h]
  rfl

theorem taking_ends (here : Standpoint) (r : Rule) (value : Text) :
    r.taking here .ends value
      = { r with ends := ((DateText.day? here value).toOption.join.map Stamp.day).or r.ends } := by
  rw [taking, withValue]
  cases DateText.day? here value <;> rfl

theorem withPart_of_breaksOff (h : BreaksOff here part) (r : Rule) :
    r.withPart here part = .error .divisionImpossible := by
  obtain ⟨value, has, breaks⟩ := h
  rw [withPart_of_hasValue has, withValue, breaks]
  rfl

theorem withPart_of_not_breaksOff (h : ¬ BreaksOff here part) (r : Rule) :
    r.withPart here part = .ok (r.takingPart here part) := by
  by_cases keyed : IsKeyed part
  · obtain ⟨key, keyed⟩ := keyed
    obtain ⟨value, has⟩ := exists_hasValue keyed
    rw [takingPart_of_hasValue has, taking, withPart_of_hasValue has]
    cases key with
    | frequency | interval | byDay | byMonthDay | byMonth | count => rfl
    | ends =>
        rw [withValue]
        cases told : DateText.day? here value with
        | ok d => rfl
        | error fault =>
            rw [DateText.day?_eq_error told] at told
            exact absurd ⟨value, has, told⟩ h
  · rw [takingPart_of_not_isKeyed keyed, withPart_of_not_isKeyed keyed]

/-- The reading of parts breaks off where one of them does so. -/
theorem foldlM_of_breaksOff (h : ∃ p ∈ ps, BreaksOff here p) (r : Rule) :
    ps.foldlM (withPart here) r = .error .divisionImpossible := by
  induction ps generalizing r with
  | nil => exact absurd h fun ⟨_, member, _⟩ => List.not_mem_nil member
  | cons p ps ih =>
      rw [List.foldlM_cons]
      by_cases first : BreaksOff here p
      · rw [withPart_of_breaksOff first]
        rfl
      · rw [withPart_of_not_breaksOff first]
        obtain ⟨q, member, breaks⟩ := h
        rcases List.mem_cons.mp member with rfl | later
        · exact absurd breaks first
        · exact ih ⟨q, later, breaks⟩ _

theorem foldlM_of_not_breaksOff (h : ∀ p ∈ ps, ¬ BreaksOff here p) (r : Rule) :
    ps.foldlM (withPart here) r = .ok (ps.foldl (takingPart here) r) := by
  induction ps generalizing r with
  | nil => rfl
  | cons p ps ih =>
      rw [List.foldlM_cons, withPart_of_not_breaksOff (h p List.mem_cons_self)]
      exact ih (fun q later => h q (List.mem_cons_of_mem p later)) _

theorem foldl_of_foldlM_eq_ok (h : ps.foldlM (withPart here) r = .ok s) :
    ps.foldl (takingPart here) r = s := by
  by_cases breaks : ∃ p ∈ ps, BreaksOff here p
  · rw [foldlM_of_breaksOff breaks] at h
    cases h
  · rw [foldlM_of_not_breaksOff fun p member off => breaks ⟨p, member, off⟩] at h
    exact Except.ok.inj h

/-- The rule that is read from a text is the one its parts tell. -/
theorem read?_eq_some {t : Text} (h : read? here t = .ok (some r)) :
    (parts t).foldl (takingPart here) { frequency := none } = r ∧ r.frequency.isSome = true := by
  obtain ⟨told, folded, h⟩ := map_eq_ok.mp h
  split at h
  · rename_i frequency
    cases h
    exact ⟨foldl_of_foldlM_eq_ok folded, frequency⟩
  · cases h

/-- What holds of the rule that reading begins with and outlasts every value holds of the rule that
is read. -/
theorem of_read? {P : Rule → Prop} {t : Text} (start : P { frequency := none })
    (step : ∀ (s : Rule) (key : RuleKey) (value : Text), P s → P (s.taking here key value))
    (h : read? here t = .ok (some r)) : P r := by
  have one : ∀ (s : Rule) (part : Text), P s → P (s.takingPart here part) := by
    intro s part held
    by_cases keyed : IsKeyed part
    · obtain ⟨key, keyed⟩ := keyed
      obtain ⟨value, has⟩ := exists_hasValue keyed
      rw [takingPart_of_hasValue has]
      exact step s key value held
    · rw [takingPart_of_not_isKeyed keyed]
      exact held
  have all : ∀ (ps : List Text) (s : Rule), P s → P (ps.foldl (takingPart here) s) := by
    intro ps
    induction ps with
    | nil => exact fun _ held => held
    | cons part ps ih => exact fun s held => ih _ (one s part held)
  rw [← (read?_eq_some h).1]
  exact all _ _ start

/-! The field that a part bears on. -/

/-- Two rules agree in the field of a key. -/
def AgreeOn (key : RuleKey) (r s : Rule) : Prop :=
  match key with
  | .frequency => r.frequency = s.frequency
  | .interval => r.interval = s.interval
  | .byDay => r.byDay = s.byDay
  | .byMonthDay => r.byMonthDay = s.byMonthDay
  | .byMonth => r.byMonth = s.byMonth
  | .count => r.count = s.count
  | .ends => r.ends = s.ends

theorem AgreeOn.refl (key : RuleKey) (r : Rule) : AgreeOn key r r := by
  cases key <;> rfl

theorem AgreeOn.trans {q : Rule} (first : AgreeOn key q r) (second : AgreeOn key r s) :
    AgreeOn key q s := by
  cases key <;> exact Eq.trans first second

theorem AgreeOn.symm (h : AgreeOn key r s) : AgreeOn key s r := by
  cases key <;> exact Eq.symm h

theorem eq_of_agreeOn (h : ∀ key, AgreeOn key r s) : r = s := by
  obtain ⟨frequency, interval, byDay, byMonthDay, byMonth, count, ends⟩ := r
  obtain rfl : frequency = _ := h .frequency
  obtain rfl : interval = _ := h .interval
  obtain rfl : byDay = _ := h .byDay
  obtain rfl : byMonthDay = _ := h .byMonthDay
  obtain rfl : byMonth = _ := h .byMonth
  obtain rfl : count = _ := h .count
  obtain rfl : ends = _ := h .ends
  rfl

/-- A value bears on the field of its key only. -/
theorem agreeOn_taking {other : RuleKey} (apart : other ≠ key) (value : Text) :
    AgreeOn key (r.taking here other value) r := by
  cases other with
  | ends =>
      rw [taking_ends]
      cases key <;> first | rfl | exact absurd rfl apart
  | frequency | interval | byDay | byMonthDay | byMonth | count =>
      cases key <;> first | rfl | exact absurd rfl apart

theorem AgreeOn.taking (h : AgreeOn key r s) (other : RuleKey) (value : Text) :
    AgreeOn key (r.taking here other value) (s.taking here other value) := by
  by_cases same : other = key
  · subst same
    cases other with
    | frequency => exact congrArg (Option.or _) h
    | interval => exact congrArg (Option.or _) h
    | count => exact congrArg (Option.or _) h
    | ends =>
        rw [taking_ends, taking_ends]
        exact congrArg (Option.or _) h
    | byDay | byMonthDay | byMonth => rfl
  · exact (agreeOn_taking same value).trans (h.trans (agreeOn_taking same value).symm)

theorem AgreeOn.takingPart (h : AgreeOn key r s) (part : Text) :
    AgreeOn key (r.takingPart here part) (s.takingPart here part) := by
  by_cases keyed : IsKeyed part
  · obtain ⟨other, keyed⟩ := keyed
    obtain ⟨value, has⟩ := exists_hasValue keyed
    rw [takingPart_of_hasValue has, takingPart_of_hasValue has]
    exact h.taking other value
  · rw [takingPart_of_not_isKeyed keyed, takingPart_of_not_isKeyed keyed]
    exact h

theorem agreeOn_takingPart (other : hasKey key.name part = false) :
    AgreeOn key (r.takingPart here part) r := by
  by_cases keyed : IsKeyed part
  · obtain ⟨found, keyed⟩ := keyed
    obtain ⟨value, has⟩ := exists_hasValue keyed
    rw [takingPart_of_hasValue has]
    apply agreeOn_taking
    rintro rfl
    rw [hasKey_iff.mpr keyed] at other
    cases other
  · rw [takingPart_of_not_isKeyed keyed]
    exact .refl key r

/-- For the field of a key, reading goes through the parts with that key and passes over the others. -/
theorem agreeOn_foldl (h : AgreeOn key r s) (ps : List Text) :
    AgreeOn key (ps.foldl (takingPart here) r)
      ((ps.filter (hasKey key.name)).foldl (takingPart here) s) := by
  induction ps generalizing r s with
  | nil => exact h
  | cons p ps ih =>
      rw [List.filter_cons, List.foldl_cons]
      cases keyed : hasKey key.name p with
      | true => exact ih (h.takingPart p)
      | false => exact ih ((agreeOn_takingPart keyed).trans h)

/-! The text around the parts. -/

/-- A part may be stripped before it is read. -/
theorem withPart_strip (here : Standpoint) (r : Rule) (part : Text) :
    r.withPart here part.strip = r.withPart here part := by
  by_cases cut : '=' ∈ part
  · obtain ⟨name, value, rfl, free⟩ := List.eq_append_cons_of_mem cut
    have free' : '=' ∉ name.dropWhile isBlank := fun inside =>
      free ((List.dropWhile_suffix isBlank).subset inside)
    have key : RuleKey.ofName? (name.dropWhile isBlank) = RuleKey.ofName? name := by
      rw [RuleKey.ofName?, RuleKey.ofName?, Text.strip, Text.strip, Text.trimBoth_dropWhile]
    have bare : Text.strip (Text.trimRight isBlank value) = Text.strip value :=
      Text.trimBoth_trimRight isBlank value
    rw [withPart, withPart, Text.strip, Text.trimBoth_append_cons name value (by decide),
      Text.cut?_append _ free, Text.cut?_append _ free']
    simp only [key, bare]
  · have uncut : '=' ∉ part.strip := fun inside => cut (Text.mem_of_mem_trimBoth inside)
    rw [withPart, withPart, Text.cut?_eq_none cut, Text.cut?_eq_none uncut]

theorem foldlM_map_strip (here : Standpoint) (r : Rule) (ps : List Text) :
    (ps.map Text.strip).foldlM (withPart here) r = ps.foldlM (withPart here) r := by
  simp only [List.foldlM_map, withPart_strip]

/-- The label stands in front of the parts only if it stands in front of the first one. -/
theorem not_isPrefix_label {p : Text} (rest : List Text)
    (unlabelled : ¬ "RRULE:".toList <+: p.strip.upper) :
    ¬ "RRULE:".toList <+: (Text.joined [';'] (p :: rest)).strip.upper := by
  cases rest with
  | nil => rwa [Text.joined_singleton]
  | cons q rest =>
      intro label
      have semicolon : ∀ t : Text, Text.upper (';' :: t) = ';' :: t.upper := fun _ => rfl
      rw [Text.joined_cons_cons, List.singleton_append, Text.strip,
        Text.trimBoth_append_cons _ _ (by decide), Text.upper_append, semicolon] at label
      have inFirst := Text.isPrefix_of_isPrefix_append_cons (by decide) label
      exact unlabelled (Text.isPrefix_upper_strip (by decide) inFirst)

/-- Reading a text of parts is reading the parts, if no label stands in front of the first one. -/
theorem foldlM_parts_unlabelled (free : ∀ p ∈ ps, ';' ∉ p)
    (first : ∀ p ∈ ps.head?, ¬ "RRULE:".toList <+: p.strip.upper) (here : Standpoint) (r : Rule) :
    (parts (Text.joined [';'] ps)).foldlM (withPart here) r = ps.foldlM (withPart here) r := by
  cases ps with
  | nil => rfl
  | cons p rest =>
      have unlabelled : "RRULE:".toList.isPrefixOf (Text.joined [';'] (p :: rest)).strip.upper = false := by
        rw [← Bool.not_eq_true, List.isPrefixOf_iff_prefix]
        exact not_isPrefix_label rest (first p rfl)
      rw [parts, unlabelled, if_neg Bool.false_ne_true, ← foldlM_map_strip,
        Text.map_strip_pieces (by decide) (List.cons_ne_nil p rest) free, foldlM_map_strip]

end Rule

end Recurrence
