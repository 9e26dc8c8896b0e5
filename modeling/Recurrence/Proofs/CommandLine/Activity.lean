import Recurrence.CommandLine.Call
import Recurrence.Proofs.Place.Journal

/-! Running activities in a session: what is left by one activity after another, and relations between
a session and the one that is left which every small activity respects. Printing and reading the input
leave the disk, the surroundings and the clock alone. -/

namespace Recurrence.CommandLine

variable {α β : Type}

namespace Session

variable (s : Session)

/-- The answer of an activity or what stops it, and the session it leaves. -/
def run (a : Activity α) : Except Stop α × Session := (ExceptT.run a).run s

theorem run_get : s.run get = (.ok s, s) := rfl

theorem run_orStop (e : Except Fault α) : s.run (orStop e) = (e.mapError .fault, s) := by
  cases e <;> rfl

theorem run_bind (a : Activity α) (f : α → Activity β) :
    s.run (a >>= f)
      = match s.run a with
        | (.ok x, after) => after.run (f x)
        | (.error stop, after) => (.error stop, after) := by
  change (match s.run a with
    | (x, after) => (ExceptT.bindCont f x).run after) = _
  rcases s.run a with ⟨x, after⟩
  cases x <;> rfl

theorem run_bind_ok {s after : Session} {a : Activity α} {x : α} (f : α → Activity β)
    (h : s.run a = (.ok x, after)) : s.run (a >>= f) = after.run (f x) := by
  rw [run_bind, h]

theorem run_bind_error {s after : Session} {a : Activity α} {stop : Stop} (f : α → Activity β)
    (h : s.run a = (.error stop, after)) : s.run (a >>= f) = (.error stop, after) := by
  rw [run_bind, h]

/-- Where the dates of a call are read from. -/
def here : DateText.Standpoint := ⟨s.now.date, s.base⟩

/-- Disk, surroundings and clock are the same, and dates are read alike. -/
structure Alike (s s' : Session) : Prop where
  disk : s'.disk = s.disk
  surroundings : s'.surroundings = s.surroundings
  now : s'.now = s.now
  base : s'.base = s.base

/-- A relation that may be proved from one activity to the next, where printing is no step. -/
structure IsFrame (R : Session → Session → Prop) : Prop where
  alike : ∀ {s s'}, Alike s s' → R s s'
  trans : ∀ {s s' s''}, R s s' → R s' s'' → R s s''

theorem isFrame_alike : IsFrame Alike where
  alike := fun h => h
  trans := fun h h' =>
    ⟨h'.disk.trans h.disk, h'.surroundings.trans h.surroundings, h'.now.trans h.now,
      h'.base.trans h.base⟩

/-- The disk has grown, the events on it are the same. -/
structure Calm (s s' : Session) : Prop where
  spares : s.disk.Spares s'.disk
  surroundings : s'.surroundings = s.surroundings
  now : s'.now = s.now
  base : s'.base = s.base

theorem isFrame_calm : IsFrame Calm where
  alike := fun h => ⟨h.disk ▸ .refl _, h.surroundings, h.now, h.base⟩
  trans := fun h h' =>
    ⟨h.spares.trans h'.spares, h'.surroundings.trans h.surroundings, h'.now.trans h.now,
      h'.base.trans h.base⟩

end Session

open Session

/-- Whatever an activity comes to, it leaves a session that is related to the one it finds. -/
def Leaves (R : Session → Session → Prop) (a : Activity α) : Prop := ∀ s : Session, R s (s.run a).2

section Frame

variable {R : Session → Session → Prop}

theorem Leaves.of_alike (frame : IsFrame R) {a : Activity α} (h : Leaves Alike a) : Leaves R a :=
  fun s => frame.alike (h s)

theorem leaves_pure (frame : IsFrame R) (x : α) : Leaves R (pure x : Activity α) :=
  fun _ => frame.alike ⟨rfl, rfl, rfl, rfl⟩

theorem leaves_throw (frame : IsFrame R) (stop : Stop) : Leaves R (throw stop : Activity α) :=
  fun _ => frame.alike ⟨rfl, rfl, rfl, rfl⟩

theorem leaves_orStop (frame : IsFrame R) (e : Except Fault α) : Leaves R (orStop e) := by
  intro s
  rw [run_orStop]
  exact frame.alike ⟨rfl, rfl, rfl, rfl⟩

theorem leaves_bind_at (frame : IsFrame R) {s : Session} {a : Activity α} {f : α → Activity β}
    (first : R s (s.run a).2) (second : ∀ x, Leaves R (f x)) : R s (s.run (a >>= f)).2 := by
  rcases run : s.run a with ⟨stop | x, after⟩
  · rw [run] at first
    rw [run_bind_error f run]
    exact first
  · rw [run] at first
    rw [run_bind_ok f run]
    exact frame.trans first (second x after)

theorem leaves_bind (frame : IsFrame R) {a : Activity α} {f : α → Activity β} (first : Leaves R a)
    (second : ∀ x, Leaves R (f x)) : Leaves R (a >>= f) :=
  fun s => leaves_bind_at frame (first s) second

/-- What is done in view of the session may rest on what is seen. -/
theorem leaves_get {f : Session → Activity β} (h : ∀ s : Session, R s (s.run (f s)).2) :
    Leaves R (get >>= f) := by
  intro s
  rw [run_bind_ok f s.run_get]
  exact h s

end Frame

/-- An activity that answers at all gives an answer of a kind, in a session of a kind. -/
def Answers (Q : α → Session → Prop) (a : Activity α) : Prop :=
  ∀ (s : Session) (x : α) (after : Session), s.run a = (.ok x, after) → Q x after

theorem answers_bind {Q : β → Session → Prop} {a : Activity α} {f : α → Activity β}
    (h : ∀ x, Answers Q (f x)) : Answers Q (a >>= f) := by
  intro s y last answered
  rcases run : s.run a with ⟨stop | x, between⟩
  · rw [run_bind_error f run] at answered
    cases answered
  · rw [run_bind_ok f run] at answered
    exact h x between y last answered

theorem answers_get {Q : α → Session → Prop} {f : Session → Activity α}
    (h : ∀ (s : Session) (x : α) (after : Session), s.run (f s) = (.ok x, after) → Q x after) :
    Answers Q (get >>= f) := by
  intro s x after answered
  rw [run_bind_ok f s.run_get] at answered
  exact h s x after answered

/-! What prints or reads the input only. -/

section Alike

theorem alike_bind {a : Activity α} {f : α → Activity β} (first : Leaves Alike a)
    (second : ∀ x, Leaves Alike (f x)) : Leaves Alike (a >>= f) := leaves_bind isFrame_alike first second

theorem alike_orStop (e : Except Fault α) : Leaves Alike (orStop e) := leaves_orStop isFrame_alike e

theorem alike_get : Leaves Alike get := fun _ => ⟨rfl, rfl, rfl, rfl⟩

theorem alike_printText (t : Text) : Leaves Alike (printText t) := fun _ => ⟨rfl, rfl, rfl, rfl⟩

theorem alike_printLines (ts : List Text) : Leaves Alike (printLines ts) := by
  induction ts with
  | nil => exact leaves_pure isFrame_alike ()
  | cons t ts ih => exact alike_bind (alike_printText _) fun _ => ih

theorem alike_printMarked (t : Text) : Leaves Alike (printMarked t) :=
  alike_bind (alike_orStop _) fun _ => alike_bind alike_get fun _ => alike_printLines _

theorem alike_forIn {γ : Type} (items : List γ) {f : γ → PUnit → Activity (ForInStep PUnit)}
    (each : ∀ x r, Leaves Alike (f x r)) : Leaves Alike (forIn items ⟨⟩ f) := by
  induction items with
  | nil => exact leaves_pure isFrame_alike _
  | cons x rest ih =>
      rw [List.forIn_cons]
      refine alike_bind (each x ⟨⟩) fun step => ?_
      cases step with
      | done r => exact leaves_pure isFrame_alike _
      | yield r => exact ih

theorem alike_failWith (problem : Text) : Leaves Alike (failWith problem : Activity α) :=
  alike_bind (alike_printMarked _) fun _ => leaves_throw isFrame_alike _

theorem alike_today : Leaves Alike today := fun _ => ⟨rfl, rfl, rfl, rfl⟩

theorem alike_orFail (e : Except Fault α) : Leaves Alike (orFail e) := by
  unfold orFail
  split
  · exact leaves_pure isFrame_alike _
  · exact alike_failWith _
  · exact alike_failWith _
  · exact leaves_throw isFrame_alike _

theorem alike_standpoint : Leaves Alike standpoint := fun _ => ⟨rfl, rfl, rfl, rfl⟩

theorem alike_refuse (fault : UsageFault) : Leaves Alike (refuse fault : Activity α) := by
  unfold refuse
  split
  · exact leaves_throw isFrame_alike _
  · exact alike_bind (alike_printText _) fun _ => leaves_throw isFrame_alike _

theorem alike_orRefuse (e : Except UsageFault α) : Leaves Alike (orRefuse e) := by
  cases e with
  | error fault => exact alike_refuse fault
  | ok a => exact leaves_pure isFrame_alike a

theorem alike_confirm : Leaves Alike confirm := by
  refine leaves_get fun s => ?_
  rcases ask s.input with ⟨shown, answer, input⟩
  have asked : Alike s { s with input, printed := s.printed ++ shown } := ⟨rfl, rfl, rfl, rfl⟩
  refine isFrame_alike.trans asked ?_
  rcases answer with _ | answer
  · exact ⟨rfl, rfl, rfl, rfl⟩
  · cases answer <;> exact ⟨rfl, rfl, rfl, rfl⟩

theorem alike_ruleOrFail (t : Text) : Leaves Alike (ruleOrFail t) := by
  refine alike_bind alike_standpoint fun _ => alike_bind (alike_orStop _) fun found => ?_
  split
  · exact leaves_pure isFrame_alike _
  · exact alike_failWith _

theorem alike_printRule (c : Context) (rule : Rule) : Leaves Alike (printRule c rule) :=
  alike_bind (alike_orStop _) fun _ => alike_bind (alike_printMarked _) fun _ =>
    alike_bind (alike_orStop _) fun _ => alike_printMarked _

theorem alike_performParse (c : Context) (t : Text) : Leaves Alike (performParse c t) := by
  refine alike_bind alike_standpoint fun here => alike_bind (alike_orStop _) fun rule? => ?_
  split
  · exact alike_failWith _
  · refine alike_bind (alike_printRule c _) fun _ => ?_
    split
    · exact alike_bind alike_get fun _ => alike_bind (alike_orStop _) fun _ => alike_printLines _
    · exact leaves_pure isFrame_alike _

theorem alike_performRecognize (c : Context) (phrase : List Text) :
    Leaves Alike (performRecognize c phrase) := by
  refine alike_bind (alike_orStop _) fun found => ?_
  split
  · exact alike_failWith _
  · exact alike_printRule c _

theorem alike_performValidate (t : Text) : Leaves Alike (performValidate t) := by
  refine alike_bind (alike_ruleOrFail t) fun rule => alike_bind alike_today fun _ =>
    alike_bind (alike_orStop _) fun problems => alike_bind (alike_orStop _) fun written => ?_
  split
  · exact alike_printMarked _
  · refine alike_bind (alike_printMarked _) fun _ => alike_bind (alike_forIn _ fun p _ => ?_) fun _ =>
      leaves_throw isFrame_alike _
    exact alike_bind (alike_printMarked _) fun _ => leaves_pure isFrame_alike _

theorem alike_performDescribe (c : Context) (t : Text) (language : Option Language) :
    Leaves Alike (performDescribe c t language) :=
  alike_bind (alike_ruleOrFail t) fun _ => alike_bind (alike_orStop _) fun _ => alike_printText _

theorem alike_performExpand (c : Context) (t : Text) (anchor : AnchorSpan) (last : Option Date)
    (ceiling : Option Int) (cancelled modified : List Date) :
    Leaves Alike (performExpand c t anchor last ceiling cancelled modified) := by
  refine alike_bind (alike_ruleOrFail t) fun rule => alike_bind (alike_orStop _) fun ends =>
    alike_bind (alike_orStop _) fun inOrder => ?_
  dsimp only
  split
  case' isFalse => refine alike_bind (alike_failWith _) fun _ => ?_
  all_goals
    refine alike_bind (alike_orStop _) fun occurrences => ?_
    split
    · refine alike_bind (alike_printRule c rule) fun _ => alike_bind (alike_orStop _) fun duration => ?_
      exact alike_bind (alike_printMarked _) fun _ => alike_printLines _
    · exact alike_printLines _

end Alike

/-! What printing and reading a rule come to. -/

section Outcomes

variable (s : Session)

theorem printLines_outcome (ts : List Text) : (s.run (printLines ts)).1 = .ok () := by
  induction ts generalizing s with
  | nil => rfl
  | cons t ts ih => exact ih _

/-- Marked text is printed where it can be shown. -/
theorem printMarked_outcome (t : Text) :
    (Fails (Terminal.shown t) ∧ ∃ fault, (s.run (printMarked t)).1 = .error (.fault fault))
      ∨ (¬ Fails (Terminal.shown t) ∧ (s.run (printMarked t)).1 = .ok ()) := by
  unfold printMarked
  rw [run_bind, run_orStop]
  cases Terminal.shown t with
  | error fault => exact .inl ⟨⟨fault, rfl⟩, fault, rfl⟩
  | ok shown => exact .inr ⟨not_fails_ok shown, printLines_outcome s _⟩

theorem bind_throw_stops (a : Activity α) (stop : Stop) :
    ∃ stop', (s.run (a >>= fun _ => (throw stop : Activity β))).1 = .error stop' := by
  rcases run : s.run a with ⟨first | x, after⟩
  · rw [run_bind_error _ run]
    exact ⟨first, rfl⟩
  · rw [run_bind_ok _ run]
    exact ⟨stop, rfl⟩

theorem failWith_stops (problem : Text) :
    ∃ stop, (s.run (failWith problem : Activity α)).1 = .error stop := bind_throw_stops s _ _

variable {s} {text : Text}

theorem run_today : s.run today = (.ok s.now.date, s) := rfl

theorem run_standpoint : s.run standpoint = (.ok s.here, s) := rfl

theorem run_ruleOrFail {rule : Rule} {form : Phrase.Form}
    (read : Phrase.read s.here text = .ok (some (rule, form))) :
    s.run (ruleOrFail text) = (.ok rule, s) := by
  unfold ruleOrFail
  rw [run_bind_ok _ run_standpoint, read]
  rfl

theorem ruleOrFail_outcome (s : Session) (text : Text) :
    (∃ rule form, Phrase.read s.here text = .ok (some (rule, form))
        ∧ s.run (ruleOrFail text) = (.ok rule, s))
      ∨ ((∀ rule form, Phrase.read s.here text ≠ .ok (some (rule, form)))
        ∧ ∃ stop, (s.run (ruleOrFail text)).1 = .error stop) := by
  unfold ruleOrFail
  rw [run_bind_ok _ run_standpoint]
  cases Phrase.read s.here text with
  | error fault =>
      refine .inr ⟨?_, .fault fault, rfl⟩
      rintro _ _ ⟨⟩
  | ok found =>
      rw [run_bind_ok _ (s.run_orStop (.ok found))]
      rcases found with _ | ⟨rule, form⟩
      · refine .inr ⟨?_, failWith_stops s _⟩
        rintro _ _ ⟨⟩
      · exact .inl ⟨rule, form, rfl, rfl⟩

end Outcomes

end Recurrence.CommandLine
