import Recurrence.Journal
import Recurrence.Proofs.DateText.Compact
import Recurrence.Proofs.Place.Disk

/-! What becomes of an entry of the journal. Files of other content than text stay as they are, and
nothing is told of an entry that cannot be written, unless a NUL stands in the path of the home. -/

namespace Recurrence

namespace Path

variable {p q : Path}

/-- A NUL stands in the path. -/
def HasNul (p : Path) : Prop := Char.ofNat 0 ∈ p.text

instance (p : Path) : Decidable p.HasNul := inferInstanceAs (Decidable (_ ∈ _))

theorem hasNul_iff :
    p.HasNul ↔ Char.ofNat 0 ∈ p.root ∨ ∃ name ∈ p.names, Char.ofNat 0 ∈ name := by
  have inside : Char.ofNat 0 ∈ p.root ++ Text.joined ['/'] p.names
      ↔ Char.ofNat 0 ∈ p.root ∨ ∃ name ∈ p.names, Char.ofNat 0 ∈ name := by
    rw [List.mem_append]
    constructor
    · rintro (root | names)
      · exact .inl root
      · exact .inr ((Text.mem_joined names).resolve_left (by decide))
    · rintro (root | ⟨name, among, inside⟩)
      · exact .inl root
      · exact .inr (Text.mem_joined_of_mem among inside)
  rw [← inside]
  change _ ∈ (if (p.root ++ Text.joined ['/'] p.names).isEmpty then ['.'] else _) ↔ _
  split
  · rename_i empty
    rw [List.isEmpty_iff.mp empty]
    exact ⟨fun absent => absurd absent (by decide), nofun⟩
  · exact Iff.rfl

theorem hasNul_join (relative : q.root = []) : (p.join q).HasNul ↔ p.HasNul ∨ q.HasNul := by
  have joined : p.join q = { p with names := p.names ++ q.names } := by
    unfold join isAbsolute
    rw [relative]
    rfl
  rw [joined, hasNul_iff, hasNul_iff, hasNul_iff, relative]
  simp only [List.mem_append, List.not_mem_nil, false_or, or_and_right, exists_or, or_assoc]

end Path

namespace Disk

variable {α : Type} {d : Disk α} {p : Path} {fault : Fault}

theorem placeFrom_ne_hasNul (d : Disk α) (start names : List Text) :
    d.placeFrom start names ≠ .error .hasNul := by
  induction names generalizing start with
  | nil => rintro ⟨⟩
  | cons name names ih =>
      cases names with
      | nil =>
          rw [placeFrom]
          split <;> rintro ⟨⟩
      | cons next names =>
          rw [placeFrom]
          cases entered : d.folderIn start name with
          | error problem =>
              rintro ⟨⟩
              unfold folderIn at entered
              split at entered
              · cases entered
              · split at entered <;> cases entered
          | ok folder => exact ih folder

theorem placeOf_eq_hasNul : d.placeOf p = .error .hasNul ↔ p.HasNul := by
  unfold placeOf checkPath
  split
  · rename_i nul
    exact ⟨fun _ => List.contains_iff_mem.mp nul, fun _ => rfl⟩
  · rename_i free
    have absent : ¬ p.HasNul := fun nul => free (List.contains_iff_mem.mpr nul)
    split
    · exact ⟨nofun, fun nul => absurd nul absent⟩
    · exact ⟨fun found => absurd found (d.placeFrom_ne_hasNul _ _), fun nul => absurd nul absent⟩

theorem makeFolder_eq_hasNul : d.makeFolder p = .error .hasNul ↔ p.HasNul := by
  rw [← @placeOf_eq_hasNul α d, makeFolder]
  cases d.placeOf p with
  | error problem => exact ⟨fun h => congrArg Except.error (Except.error.inj h),
      fun h => congrArg Except.error (Except.error.inj h)⟩
  | ok place =>
      change (if (d.node? place).isSome then _ else _) = _ ↔ _
      split <;> exact ⟨nofun, nofun⟩

/-- What is told of a path is a NUL. -/
def TellsNul {β : Type} (e : Except Fault β) : Prop := ∃ path, e = .error (.unusablePath path .hasNul)

theorem tellsNul_ensureFolder : TellsNul (d.ensureFolder p) ↔ p.HasNul := by
  unfold ensureFolder
  cases made : d.makeFolder p with
  | ok after =>
      refine ⟨nofun, fun nul => ?_⟩
      cases made.symm.trans (makeFolder_eq_hasNul.mpr nul)
  | error problem =>
      dsimp only
      constructor
      · split
        · exact nofun
        · rintro ⟨path, ⟨⟩⟩
          exact makeFolder_eq_hasNul.mp made
      · intro nul
        cases made.symm.trans (makeFolder_eq_hasNul.mpr nul)
        have nowhere : d.isFolder p = false := by
          rw [isFolder, at?, placeOf_eq_hasNul.mpr nul]
          rfl
        rw [nowhere]
        exact ⟨p.text, rfl⟩

/-- What is told of the last step is told, whatever disk is left. -/
theorem tellsNul_settled (d : Disk α) (e : Except Fault (Disk α)) :
    TellsNul (match e with
      | .ok made => (made, Except.ok ())
      | .error fault => (d, .error fault)).2 ↔ TellsNul e := by
  cases e with
  | ok made => exact ⟨nofun, nofun⟩
  | error fault =>
      constructor
      · rintro ⟨path, ⟨⟩⟩
        exact ⟨path, rfl⟩
      · rintro ⟨path, ⟨⟩⟩
        exact ⟨path, rfl⟩

/-- The folder at the end of a way tells a NUL in its own path, if the way does not do so before. -/
theorem tellsNul_ensured {way : Disk α × Except Fault Unit} (before : TellsNul way.2 → p.HasNul)
    (untold : p.HasNul → way.2 = .ok ()) :
    TellsNul (match way.2.bind fun _ => way.1.ensureFolder p with
      | .ok made => (made, Except.ok ())
      | .error fault => (way.1, .error fault)).2 ↔ p.HasNul := by
  obtain ⟨between, fault | u⟩ := way
  · constructor
    · rintro ⟨path, ⟨⟩⟩
      exact before ⟨path, rfl⟩
    · exact fun nul => nomatch untold nul
  · exact (tellsNul_settled between _).trans tellsNul_ensureFolder

theorem tellsNul_makeFoldersFrom (root : Text) (d : Disk α) (backwards : List Text) :
    TellsNul (makeFoldersFrom root d backwards).2
      ↔ Path.HasNul { root, names := backwards.reverse } := by
  induction backwards with
  | nil =>
      exact @tellsNul_ensured α _ (d, .ok ()) nofun fun _ => rfl
  | cons name above ih =>
      unfold makeFoldersFrom
      refine tellsNul_ensured ?_ ?_
      · split
        · intro told
          have nul := Path.hasNul_iff.mp (ih.mp told)
          apply Path.hasNul_iff.mpr
          refine nul.imp_right ?_
          rintro ⟨other, among, inside⟩
          refine ⟨other, ?_, inside⟩
          rw [List.reverse_cons]
          exact List.mem_append_left [name] among
        · exact nofun
      · intro nul
        rw [makeFolder_eq_hasNul.mpr nul]

theorem tellsNul_makeFolders : TellsNul (d.makeFolders p).2 ↔ p.HasNul := by
  have same := tellsNul_makeFoldersFrom p.root d p.names.reverse
  rwa [List.reverse_reverse] at same

theorem tellsNul_append {t : Text} : TellsNul (d.append p t) ↔ p.HasNul := by
  rw [append, changeFile]
  cases led : d.placeOf p with
  | error problem =>
      constructor
      · rintro ⟨path, ⟨⟩⟩
        exact placeOf_eq_hasNul.mp led
      · intro nul
        cases led.symm.trans (placeOf_eq_hasNul.mpr nul)
        exact ⟨p.text, rfl⟩
  | ok place =>
      constructor
      · rintro ⟨path, told⟩
        dsimp only at told
        split at told <;> cases told
      · intro nul
        cases led.symm.trans (placeOf_eq_hasNul.mpr nul)

end Disk

/-- A folder is chosen that no journal can be kept in: its tilde stands for no folder, or a NUL stands
in its path. -/
def Surroundings.IsMisled (s : Surroundings) : Prop :=
  ∃ t, Home.given s.chosen = some t ∧ ∀ p, Home.pathOf s t = .ok p → p.HasNul

namespace Home

variable {s : Surroundings} {home : Home} {hasSettings hasEvents nowSettings nowEvents : Bool}

/-- Once the home has been found, the journal has a home as well, unless the chosen folder is of no
use; the home may have got its files in between. -/
theorem exists_forJournal (found : find s hasSettings hasEvents = .ok home)
    (usable : ¬ home.path.HasNul) (settings : hasSettings = true → nowSettings = true)
    (events : hasEvents = true → nowEvents = true) :
    (∃ journal, forJournal s nowSettings nowEvents = .ok journal ∧ ¬ journal.path.HasNul)
      ↔ ¬ s.IsMisled := by
  rw [forJournal]
  cases chosen : given s.chosen with
  | none =>
      have free : ¬ s.IsMisled := fun ⟨t, is, _⟩ => nomatch chosen.symm.trans is
      refine iff_of_true ?_ free
      rw [Option.isNone_none, Bool.and_true]
      unfold find at found ⊢
      split
      · exact ⟨here, rfl, by decide +kernel⟩
      · rename_i notHere
        rw [if_neg fun both => notHere ?_] at found
        · exact ⟨home, found, usable⟩
        · rw [Bool.and_eq_true] at both ⊢
          exact ⟨settings both.1, events both.2⟩
  | some t =>
      have elsewhere : ¬ (((nowSettings && (some t).isNone) && nowEvents) = true) := by
        rw [Option.isNone_some, Bool.and_false, Bool.false_and]
        exact Bool.false_ne_true
      rw [find, if_neg elsewhere, chosen]
      dsimp only
      constructor
      · rintro ⟨journal, led, free⟩ ⟨_, same, misled⟩
        cases chosen.symm.trans same
        obtain ⟨p, there, rfl⟩ := map_eq_ok.mp led
        exact free (misled p there)
      · intro led
        obtain ⟨p, led, free⟩ : ∃ p, pathOf s t = .ok p ∧ ¬ p.HasNul := by
          refine Classical.byContradiction fun none => led ⟨t, chosen, fun p led => ?_⟩
          exact Classical.byContradiction fun free => none ⟨p, led, free⟩
        exact ⟨folder p, map_eq_ok.mpr ⟨p, led, rfl⟩, free⟩

end Home

namespace Journal

open Disk

variable {α : Type} (d : Disk α)

theorem spares_addTo (p : Path) (t : Text) : d.Spares (addTo d p t).1 := by
  unfold addTo
  have way := spares_makeFolders d p.above
  rcases made : d.makeFolders p.above with ⟨between, fault | u⟩
  · rw [made] at way
    exact way
  · rw [made] at way
    dsimp only
    split
    · rename_i added
      exact way.trans (spares_append added)
    · exact way

theorem spares_write (home : Home) (enabled : Bool) (now : Moment) (columns : Int) (entry : Entry) :
    d.Spares (write d home enabled now columns entry).1 := by
  have added (on : Bool) (p : Path) (t : Text) :
      d.Spares (if on then addTo d p t else (d, .ok ())).1 := by
    cases on with
    | false => exact .refl d
    | true => exact spares_addTo d p t
  unfold write
  split
  · exact .refl d
  · dsimp only
    split <;> exact added _ _ _

theorem tellsNul_addTo {p : Path} (t : Text) (folder : p.above.HasNul ↔ p.HasNul) :
    TellsNul (addTo d p t).2 ↔ p.HasNul := by
  unfold addTo
  have way := @tellsNul_makeFolders α d p.above
  rcases made : d.makeFolders p.above with ⟨between, fault | u⟩
  · rw [made] at way
    exact way.trans folder
  · exact (tellsNul_settled between _).trans tellsNul_append

theorem not_hasNul_dayFile (date : Date) : ¬ (dayFile date).HasNul := by
  intro nul
  rcases Path.hasNul_iff.mp nul with absent | ⟨name, among, inside⟩
  · cases absent
  · have digits {width n : Nat} : Char.ofNat 0 ∉ decimalPadded width n := by
      intro member
      exact absurd (isDigit_of_mem_padded member) (by decide)
    rcases List.mem_cons.mp among with rfl | among
    · exact absurd inside (by decide +kernel)
    · rw [List.mem_singleton.mp among] at inside
      simp only [List.mem_append, digits, or_false] at inside
      rcases inside with front | ending
      · exact absurd front (by decide +kernel)
      · exact absurd ending (by decide +kernel)

/-- An entry for the file of the day ends in a fault where a NUL stands in the path of the home, and
nowhere else. -/
theorem fails_write (home : Home) (now : Moment) (columns : Int) (caller message : Text) :
    Fails (write d home true now columns { caller, message }).2 ↔ home.path.HasNul := by
  have file : (home.path.join (dayFile now.date)).HasNul ↔ home.path.HasNul := by
    rw [Path.hasNul_join rfl, or_iff_left (not_hasNul_dayFile now.date)]
  have folder : (home.path.join (dayFile now.date)).above.HasNul ↔ home.path.HasNul := by
    have above : (home.path.join (dayFile now.date)).above
        = home.path.join { names := [journalName] } := by
      exact congrArg (Path.mk home.path.root) (List.dropLast_append_cons ..)
    rw [above, Path.hasNul_join rfl]
    exact or_iff_left (by decide +kernel)
  have told := tellsNul_addTo d (entryText now.time columns caller message) (folder.trans file.symm)
  rw [← file, ← told]
  unfold write
  simp only [Bool.not_true, Bool.false_and, Bool.false_eq_true, if_false, if_true, Option.getD_none]
  rcases addTo d _ _ with ⟨between, fault | u⟩
  · dsimp only
    split
    · rename_i absent
      cases absent
    · rename_i path same
      cases same
      exact ⟨fun _ => ⟨path, rfl⟩, fun _ => ⟨_, rfl⟩⟩
    · rename_i other same
      cases same
      refine ⟨fun failed => absurd failed (not_fails_ok _), ?_⟩
      rintro ⟨path, ⟨⟩⟩
      exact absurd rfl (other path)
  · exact ⟨fun failed => absurd failed (not_fails_ok _), nofun⟩

end Journal

end Recurrence
