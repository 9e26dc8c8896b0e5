import Recurrence.Proofs.Document.Kept
import Recurrence.Proofs.Settings.Readback

/-! Loading settings a second time. The title is written between quotes as it is, so the file that
loading leaves behind means the same settings exactly if there is no quote, no backslash and no
control character in the title; the file then stays as it is. -/

namespace Recurrence.Settings

open Document Document.Draft

variable {s s' : Settings} {t w v r : Text} {l : Loaded} {file : Option Text} {c : Char}

/-! What a loaded file is. -/

/-- The file is the document of the settings, or an old file that differs from it by its line ends
only and is loaded as before. -/
theorem load_cases (loaded : load file = .ok l) :
    l.settings.IsShort ∧ (l.text = l.settings.shown ∨
      withLineFeeds l.text = l.settings.shown ∧ load (some l.text) = .ok l ∧
        .updated ∉ l.notes) := by
  cases file with
  | none =>
      unfold load at loaded
      dsimp only at loaded
      obtain ⟨text, written, rfl⟩ := map_eq_ok.mp loaded
      obtain ⟨short, same⟩ := write_eq_ok.mp written
      exact ⟨short, .inl same⟩
  | some old =>
      have again := loaded
      unfold load at loaded
      dsimp only at loaded
      split at loaded
      · cases loaded
      · rename_i read _
        obtain ⟨text, written, rfl⟩ := map_eq_ok.mp loaded
        obtain ⟨short, same⟩ := write_eq_ok.mp written
        refine ⟨short, ?_⟩
        dsimp only at again ⊢
        by_cases feeds : text = withLineFeeds old
        · rw [if_pos feeds] at again ⊢
          rw [if_pos feeds] at again ⊢
          refine .inr ⟨feeds.symm.trans same, again, ?_⟩
          cases read with
          | none => decide
          | some s => exact List.not_mem_nil
        · rw [if_neg feeds]
          exact .inl same

/-! The title of a document that begins with it. -/

/-- The title is what stands in quotes in the first line, whatever the other lines are. -/
theorem title_of_read {table : Table}
    (front : lineFeeds t = "title".toList ++ ' ' :: '=' :: ' ' :: '"' :: w)
    (read : Document.read t = .ok table) :
    ∃ v r, quotedText ('"' :: w) = .ok (v, r) ∧ table.get? "title".toList = some (.text v) := by
  have nonempty : "title".toList ≠ [] := by decide
  have bare : ∀ c ∈ "title".toList, isBareKeyChar c = true := by decide
  have shape : ∀ s : Text, "title".toList ++ s = 't' :: ("itle".toList ++ s) := fun _ => rfl
  rw [Document.read, replace_eq_lineFeeds, front] at read
  obtain ⟨d, lines, rfl⟩ := map_eq_ok.mp read
  rw [shape, statements_cons (by decide), statement_bare (by decide), ← shape] at lines
  cases quoted : quotedText ('"' :: w) with
  | error e =>
      have given : ∀ fuel, value (fuel + 1) ('"' :: w) = .error e := by
        intro fuel
        rw [value, quoted]
        rfl
      rw [entry_of_error nonempty bare rfl given] at lines
      cases lines
  | ok p =>
      obtain ⟨v, r⟩ := p
      have given : ∀ fuel, value (fuel + 1) ('"' :: w) = .ok (.text v, r) := by
        intro fuel
        rw [value, quoted]
        rfl
      refine ⟨v, r, rfl, ?_⟩
      rw [entry_of_ok nonempty bare rfl given rfl rfl rfl] at lines
      dsimp only at lines
      split at lines
      · cases lines
      · cases lines
        rfl
      · exact get?_statements lines rfl
      · cases lines

theorem title_of_ofTable {table : Table} (made : ofTable table = .ok s)
    (found : table.get? "title".toList = some (.text v)) : s.title = v := by
  have title := @field_eq _ table "title".toList "title".toList _ default.title _ _ found
    (rfl : SettingsProblem.plainText (.text v) = .ok v)
  unfold ofTable at made
  rw [title] at made
  dsimp only at made
  split at made
  · cases made
    rfl
  · cases made

/-- A document that shows a title: in its first line stands, between quotes, a text that is no longer
than the title, and behind it come the line's end and no more than two quotes. -/
def Shows (t title : Text) : Prop :=
  ∃ u x r, lineFeeds t = "title".toList ++ ' ' :: '=' :: ' ' :: '"' :: (u ++ '"' :: x :: r) ∧
    u.length ≤ title.length ∧ isControl x = true ∧ r.count '"' ≤ 2

theorem front_append (t : Text) :
    "title = \"".toList ++ t = "title".toList ++ ' ' :: '=' :: ' ' :: '"' :: t := rfl

theorem exists_tail_eq (s : Settings) : ∃ r, s.tail = '\n' :: r ∧ r.count '"' ≤ 2 := by
  have quotes := count_quote_tail s
  have head : s.tail.head? = some '\n' := rfl
  cases shape : s.tail with
  | nil =>
      rw [shape] at head
      cases head
  | cons c r =>
      rw [shape] at head quotes
      cases head
      exact ⟨r, rfl, Nat.le_trans List.count_le_count_cons (Nat.le_of_eq quotes)⟩

/-- Written settings show their title. -/
theorem shows_shown (s : Settings) : Shows s.shown s.title := by
  obtain ⟨r, rest, few⟩ := exists_tail_eq s
  have behind : lineFeeds ('"' :: s.tail) = '"' :: '\n' :: r := by
    rw [lineFeeds_eq_self, rest]
    rw [List.mem_cons, not_or]
    exact ⟨by decide, carriage_not_mem_tail s⟩
  refine ⟨lineFeeds s.title, '\n', r, ?_, length_lineFeeds_le s.title, by decide, few⟩
  rw [shown_eq, lineFeeds_append_of_free (by decide), lineFeeds_append, behind, front_append]
  exact fun same => absurd (Option.some.inj same) (by decide)

/-- So does a text that differs from them by its line ends only. -/
theorem shows_of_withLineFeeds (same : withLineFeeds t = s.shown) : Shows t s.title := by
  obtain ⟨r, rest, few⟩ := exists_tail_eq s
  rw [withLineFeeds_eq, shown_eq, rest] at same
  obtain ⟨front, behind, split, fronts, same⟩ := List.map_eq_append_iff.mp same
  obtain ⟨u, behind, rfl, titles, same⟩ := List.map_eq_append_iff.mp same
  obtain ⟨quote, behind, rfl, quotes, same⟩ := List.map_eq_cons_iff.mp same
  obtain ⟨x, tail, rfl, ends, rfl⟩ := List.map_eq_cons_iff.mp same
  rw [eq_of_map_feed (by decide) fronts, eq_of_feed (by decide) quotes, front_append] at split
  rw [count_map_feed (by decide) (by decide)] at few
  refine ⟨u, x, tail, split, Nat.le_of_eq ?_, ?_, few⟩
  · rw [← titles, List.length_map]
  · unfold feed at ends
    split at ends
    · rename_i carriage
      rw [carriage]
      decide
    · rw [ends]
      decide

/-- If the title is read back as it was, it can stand between quotes as it is. -/
theorem isPlain_of_ofText (shows : Shows t s.title) (read : ofText t = .ok (some s)) :
    IsPlain s.title := by
  obtain ⟨u, x, r, front, short, control, few⟩ := shows
  unfold ofText at read
  split at read
  · cases read
  · cases read
  · rename_i table parsed
    have made : ofTable table = .ok s := by
      cases made : ofTable table with
      | error reports =>
          rw [made] at read
          cases read
      | ok s' =>
          rw [made] at read
          cases read
          rfl
    obtain ⟨v, rest, quoted, found⟩ := title_of_read front parsed
    have title := title_of_ofTable made found
    have shrinks := quotedText_shrinks control few quoted
    rw [title] at short ⊢
    have equal : v.length = u.length := by omega
    obtain ⟨rfl, plain⟩ := shrinks.2 equal
    exact plain

theorem isPlain_default : IsPlain default.title := by decide

/-- Loading what a load left behind gives the same settings and leaves the file as it is, exactly if
the title can stand between quotes as it is. -/
theorem load_load_iff (loaded : load file = .ok l) :
    (∃ notes, load (some l.text) = .ok ⟨l.settings, l.text, notes⟩ ∧ .updated ∉ notes) ↔
      IsPlain l.settings.title := by
  obtain ⟨short, shown⟩ := load_cases loaded
  constructor
  · rintro ⟨notes, again, -⟩
    have shows : Shows l.text l.settings.title := by
      rcases shown with same | ⟨feeds, -, -⟩
      · exact same ▸ shows_shown l.settings
      · exact shows_of_withLineFeeds feeds
    unfold load at again
    dsimp only at again
    split at again
    · cases again
    · rename_i read parsed
      obtain ⟨text, -, made⟩ := map_eq_ok.mp again
      have settings : read.getD default = l.settings := congrArg Loaded.settings made
      cases read with
      | none => exact settings ▸ isPlain_default
      | some s =>
          change s = l.settings at settings
          rw [← settings] at shows ⊢
          exact isPlain_of_ofText shows parsed
  · intro plain
    rcases shown with same | ⟨-, again, quiet⟩
    · have free := carriage_not_mem_shown plain
      have written := write_eq_ok.mpr ⟨short, rfl⟩
      refine ⟨[], ?_, List.not_mem_nil⟩
      rw [same]
      unfold load
      dsimp only
      rw [ofText_shown plain short]
      dsimp only [Option.getD_some]
      rw [written, withLineFeeds_eq_self free]
      change Except.ok (Loaded.mk _ (if _ = _ then _ else _) ([] ++ if _ = _ then _ else _)) = _
      rw [if_pos rfl, if_pos rfl]
      rfl
    · exact ⟨l.notes, again, quiet⟩

theorem isShort_of_fitsWord (most : fitsWord s.maxInstances = true)
    (query : fitsWord s.queryLimit = true) (horizon : fitsWord s.horizonYears = true) : s.IsShort :=
  ⟨Integer.isShort_of_fitsWord most, Integer.isShort_of_fitsWord query,
    Integer.isShort_of_fitsWord horizon⟩

theorem load_none : load none = .ok ⟨default, default.shown, [.created]⟩ := by
  have short : default.IsShort :=
    isShort_of_fitsWord (by decide +kernel) (by decide +kernel) (by decide +kernel)
  have written := write_eq_ok.mpr ⟨short, rfl⟩
  unfold load
  dsimp only
  rw [written]
  rfl

/-- What a file with settings of short numbers is loaded as. -/
theorem exists_load_of_ofText (read : ofText t = .ok (some s)) (short : s.IsShort) :
    ∃ l, load (some t) = .ok l ∧ l.settings = s := by
  have written := write_eq_ok.mpr ⟨short, rfl⟩
  unfold load
  dsimp only
  rw [read]
  dsimp only [Option.getD_some]
  rw [written]
  exact ⟨_, rfl, rfl⟩

/-- A new file is loaded as it is; a title with a quote in it is lost with the second load. -/
theorem load_load_quote :
    (∃ l, load none = .ok l ∧
      ∃ notes, load (some l.text) = .ok ⟨l.settings, l.text, notes⟩ ∧ .updated ∉ notes) ∧
    ∃ l, load (some "title = 'a\"b'".toList) = .ok l ∧ l.settings.title = "a\"b".toList ∧
      ¬ ∃ notes, load (some l.text) = .ok ⟨l.settings, l.text, notes⟩ ∧ .updated ∉ notes := by
  refine ⟨⟨_, load_none, (load_load_iff load_none).mpr isPlain_default⟩, ?_⟩
  have values : ((ofText "title = 'a\"b'".toList).toOption.bind id).map
      (fun s => (s.title, s.maxInstances, s.queryLimit, s.horizonYears))
      = some ("a\"b".toList, 365, 200, 2) := by decide +kernel
  cases read : ofText "title = 'a\"b'".toList with
  | error fault =>
      rw [read] at values
      cases values
  | ok read? =>
      rw [read] at values
      obtain ⟨s, given, numbers⟩ := Option.map_eq_some_iff.mp values
      have found : read? = some s := given
      simp only [Prod.mk.injEq] at numbers
      obtain ⟨title, most, query, horizon⟩ := numbers
      have short : s.IsShort := by
        apply isShort_of_fitsWord
        · rw [most]; decide
        · rw [query]; decide
        · rw [horizon]; decide
      obtain ⟨l, loaded, same⟩ := exists_load_of_ofText (found ▸ read) short
      refine ⟨l, loaded, same ▸ title, ?_⟩
      rw [load_load_iff loaded, same, title]
      decide

end Recurrence.Settings
