import Recurrence.Place.Disk

/-! What writing leaves of a disk. Nothing on it ever goes, and a folder stays a folder, so a path that
led somewhere leads there afterwards. Making folders and writing text also leaves every file of another
content as it was. -/

namespace Recurrence.Disk

variable {α : Type} {d d' d'' : Disk α} {p : Path} {place : List Text} {node : Node α}

/-- Folders stay folders, and what is somewhere does not go. -/
structure Grows (d d' : Disk α) : Prop where
  folder : ∀ place, d.node? place = some .folder → d'.node? place = some .folder
  there : ∀ place, (d.node? place).isSome = true → (d'.node? place).isSome = true

/-- Besides, the files of other content than text are the same ones. -/
structure Spares (d d' : Disk α) : Prop extends Grows d d' where
  content : ∀ place a, d'.node? place = some (.other a) ↔ d.node? place = some (.other a)

theorem Grows.refl (d : Disk α) : d.Grows d := ⟨fun _ h => h, fun _ h => h⟩

theorem Grows.trans (h : d.Grows d') (h' : d'.Grows d'') : d.Grows d'' where
  folder := fun place there => h'.folder place (h.folder place there)
  there := fun place there => h'.there place (h.there place there)

theorem Spares.refl (d : Disk α) : d.Spares d := ⟨.refl d, fun _ _ => Iff.rfl⟩

theorem Spares.trans (h : d.Spares d') (h' : d'.Spares d'') : d.Spares d'' where
  toGrows := h.toGrows.trans h'.toGrows
  content := fun place a => (h'.content place a).trans (h.content place a)

theorem find?_map_replaced (nodes : List (List Text × Node α)) (place : List Text) (node : Node α)
    (other : List Text) :
    ((nodes.map fun n => if n.1 == place then (place, node) else n).find? fun n =>
        n.1 == other).map Prod.snd
      = if other = place then (nodes.find? fun n => n.1 == place).map fun _ => node
        else (nodes.find? fun n => n.1 == other).map Prod.snd := by
  induction nodes with
  | nil => simp only [List.map_nil, List.find?_nil, Option.map_none, ite_self]
  | cons n rest ih =>
      rw [List.map_cons, List.find?_cons, List.find?_cons, List.find?_cons]
      by_cases here : n.1 = place
      · by_cases same : other = place
        · simp only [here, same, beq_self_eq_true, if_true, Option.map_some]
        · have apart : (place == other) = false := beq_eq_false_iff_ne.mpr (Ne.symm same)
          rw [if_neg same] at ih
          simp only [here, same, beq_self_eq_true, if_true, if_false, apart, ih]
      · have elsewhere : (n.1 == place) = false := beq_eq_false_iff_ne.mpr here
        rw [elsewhere, if_neg Bool.false_ne_true]
        cases found : n.1 == other with
        | true =>
            have apart : other ≠ place := fun same => here ((beq_iff_eq.mp found).trans same)
            rw [if_neg apart]
        | false => exact ih

/-- A node that is put somewhere is there, and all else is what it was. -/
theorem node?_setNode (d : Disk α) (place : List Text) (node : Node α) (other : List Text) :
    (d.setNode place node).node? other
      = if isGiven other then some .folder
        else if other = place then some node else d.node? other := by
  unfold node?
  split
  · rfl
  · unfold setNode
    split
    · rename_i found
      obtain ⟨n, found⟩ := Option.isSome_iff_exists.mp found
      rw [find?_map_replaced, found, Option.map_some]
    · rename_i absent
      rw [Bool.not_eq_true, Option.isSome_eq_false_iff, Option.isNone_iff_eq_none] at absent
      rw [List.find?_append]
      by_cases same : other = place
      · rw [if_pos same, same, absent, Option.none_or, List.find?_cons, beq_self_eq_true]
        rfl
      · have apart : (place == other) = false := beq_eq_false_iff_ne.mpr (Ne.symm same)
        rw [if_neg same, List.find?_cons, apart, List.find?_nil, Option.or_none]

theorem isGiven_eq_false (h : d.node? place ≠ some .folder) : isGiven place = false := by
  apply Bool.eq_false_iff.mpr
  exact fun given => h (if_pos given)

theorem grows_setNode (h : d.node? place ≠ some .folder) : d.Grows (d.setNode place node) where
  folder := by
    intro other there
    rw [node?_setNode]
    split
    · rfl
    · split
      · rename_i same
        exact absurd (same ▸ there) h
      · exact there
  there := by
    intro other there
    rw [node?_setNode]
    split
    · rfl
    · split
      · rfl
      · exact there

/-- A folder or a text spares the rest where it is put in the place of nothing or of a text. -/
theorem spares_setNode (plain : ∀ a, node ≠ .other a)
    (free : d.node? place = none ∨ ∃ t, d.node? place = some (.text t)) :
    d.Spares (d.setNode place node) where
  toGrows := by
    apply grows_setNode
    rcases free with absent | ⟨t, text⟩
    · exact fun there => nomatch absent.symm.trans there
    · exact fun there => nomatch text.symm.trans there
  content := by
    intro other a
    have kept : ∀ b, d.node? place ≠ some (.other b) := by
      intro b there
      rcases free with absent | ⟨t, text⟩
      · cases absent.symm.trans there
      · cases text.symm.trans there
    rw [node?_setNode]
    split
    · rename_i given
      rw [node?, if_pos given]
    · split
      · rename_i same
        constructor
        · intro put
          exact absurd (Option.some.inj put) (plain a)
        · intro there
          exact absurd (same ▸ there) (kept a)
      · exact Iff.rfl

/-! Where a path led, it leads on a disk that has grown. -/

theorem Grows.placeFrom (h : d.Grows d') {start : List Text} {names : List Text}
    (led : d.placeFrom start names = .ok place) : d'.placeFrom start names = .ok place := by
  induction names generalizing start with
  | nil => exact led
  | cons name names ih =>
      cases names with
      | nil => exact led
      | cons next names =>
          rw [Disk.placeFrom] at led ⊢
          cases entered : d.folderIn start name with
          | error problem =>
              rw [entered] at led
              cases led
          | ok folder =>
              have still : d'.folderIn start name = .ok folder := by
                unfold folderIn at entered ⊢
                split at entered
                · cases entered
                · rename_i short
                  rw [if_neg short]
                  split at entered
                  · rename_i there
                    rw [h.folder _ there]
                    exact entered
                  · cases entered
                  · cases entered
              rw [entered] at led
              rw [still]
              exact ih led

theorem Grows.placeOf (h : d.Grows d') (led : d.placeOf p = .ok place) :
    d'.placeOf p = .ok place := by
  unfold Disk.placeOf at led ⊢
  cases checked : checkPath p with
  | error problem =>
      rw [checked] at led
      cases led
  | ok u =>
      rw [checked] at led
      exact h.placeFrom led

theorem at?_eq_some {found : Node α} :
    d.at? p = some found ↔ ∃ place, d.placeOf p = .ok place ∧ d.node? place = some found := by
  unfold at?
  cases d.placeOf p with
  | error problem => exact ⟨nofun, fun ⟨_, absent, _⟩ => nomatch absent⟩
  | ok place =>
      constructor
      · exact fun there => ⟨place, rfl, there⟩
      · rintro ⟨_, ⟨⟩, there⟩
        exact there

theorem Grows.exists? (h : d.Grows d') (there : d.exists? p = true) : d'.exists? p = true := by
  obtain ⟨found, there⟩ := Option.isSome_iff_exists.mp there
  obtain ⟨place, led, there⟩ := at?_eq_some.mp there
  obtain ⟨now, there⟩ := Option.isSome_iff_exists.mp (h.there place (Option.isSome_of_mem there))
  exact Option.isSome_of_mem (at?_eq_some.mpr ⟨place, h.placeOf led, there⟩)

theorem Spares.at? {a : α} (h : d.Spares d') (there : d.at? p = some (.other a)) :
    d'.at? p = some (.other a) := by
  obtain ⟨place, led, there⟩ := at?_eq_some.mp there
  exact at?_eq_some.mpr ⟨place, h.placeOf led, (h.content place a).mpr there⟩

/-! Making folders, and files of text. -/

theorem spares_makeFolder (made : d.makeFolder p = .ok d') : d.Spares d' := by
  unfold makeFolder at made
  cases led : d.placeOf p with
  | error problem =>
      rw [led] at made
      cases made
  | ok place =>
      rw [led] at made
      change (if (d.node? place).isSome then _ else _) = _ at made
      split at made
      · cases made
      · rename_i absent
        cases made
        rw [Option.not_isSome_iff_eq_none] at absent
        exact spares_setNode nofun (.inl absent)

theorem spares_ensureFolder (made : d.ensureFolder p = .ok d') : d.Spares d' := by
  unfold ensureFolder at made
  split at made
  · rename_i first
    cases made
    exact spares_makeFolder first
  · split at made
    · cases made
      exact .refl d
    · cases made

/-- What has been made on the way is spared by the folder at its end. -/
theorem spares_ensured {way : Disk α × Except Fault Unit} (first : d.Spares way.1) (p : Path) :
    d.Spares (match way.2.bind fun _ => way.1.ensureFolder p with
      | .ok made => (made, Except.ok ())
      | .error fault => (way.1, .error fault)).1 := by
  obtain ⟨between, _ | u⟩ := way
  · exact first
  · split
    · rename_i made
      exact first.trans (spares_ensureFolder made)
    · exact first

theorem spares_makeFoldersFrom (root : Text) (d : Disk α) (backwards : List Text) :
    d.Spares (makeFoldersFrom root d backwards).1 := by
  induction backwards with
  | nil =>
      unfold makeFoldersFrom
      split
      · rename_i made
        exact spares_ensureFolder made
      · exact .refl d
  | cons name above ih =>
      unfold makeFoldersFrom
      refine spares_ensured ?_ _
      split
      · exact ih
      · exact .refl d

theorem spares_makeFolders (d : Disk α) (p : Path) : d.Spares (d.makeFolders p).1 :=
  spares_makeFoldersFrom p.root d p.names.reverse

theorem changeFile_eq_ok {change : Option (Node α) → Node α} (made : d.changeFile p change = .ok d') :
    ∃ place, d.placeOf p = .ok place ∧ d.node? place ≠ some .folder
      ∧ d' = d.setNode place (change (d.node? place)) := by
  unfold changeFile at made
  split at made
  · cases made
  · rename_i place led
    split at made
    · cases made
    · rename_i file
      cases made
      exact ⟨place, led, fun folder => file folder, rfl⟩

/-- A file that was put is at its path. -/
theorem at?_putFile (made : d.putFile p node = .ok d') : d'.at? p = some node := by
  obtain ⟨place, led, file, rfl⟩ := changeFile_eq_ok made
  refine at?_eq_some.mpr ⟨place, (grows_setNode file).placeOf led, ?_⟩
  rw [node?_setNode, isGiven_eq_false file, if_neg Bool.false_ne_true, if_pos rfl]

theorem grows_putFile (made : d.putFile p node = .ok d') : d.Grows d' := by
  obtain ⟨place, -, file, rfl⟩ := changeFile_eq_ok made
  exact grows_setNode file

/-- Where a file stands, a file can be put. -/
theorem exists_putFile {a : α} (there : d.at? p = some (.other a)) (node : Node α) :
    ∃ d', d.putFile p node = .ok d' := by
  obtain ⟨place, led, there⟩ := at?_eq_some.mp there
  refine ⟨d.setNode place node, ?_⟩
  rw [putFile, changeFile, led]
  dsimp only
  rw [there]

/-- Text that takes no place of another content spares the rest. -/
theorem spares_putFile {t : Text} (free : ∀ a, d.at? p ≠ some (.other a))
    (made : d.putFile p (.text t) = .ok d') : d.Spares d' := by
  obtain ⟨place, led, file, rfl⟩ := changeFile_eq_ok made
  apply spares_setNode nofun
  cases there : d.node? place with
  | none => exact .inl rfl
  | some old =>
      cases old with
      | folder => exact absurd there file
      | text t => exact .inr ⟨t, rfl⟩
      | other a => exact absurd (at?_eq_some.mpr ⟨place, led, there⟩) (free a)

theorem spares_append {t : Text} (made : d.append p t = .ok d') : d.Spares d' := by
  obtain ⟨place, -, file, rfl⟩ := changeFile_eq_ok made
  cases there : d.node? place with
  | none => exact spares_setNode nofun (.inl there)
  | some old =>
      cases old with
      | folder => exact absurd there file
      | text before => exact spares_setNode nofun (.inr ⟨before, there⟩)
      | other a =>
          refine ⟨grows_setNode file, ?_⟩
          intro other b
          rw [node?_setNode]
          split
          · rename_i given
            rw [node?, if_pos given]
          · split
            · rename_i same
              rw [same, there]
            · exact Iff.rfl

/-! What is known of all contents but text. -/

def AllContent (P : α → Prop) (d : Disk α) : Prop :=
  ∀ place a, d.node? place = some (.other a) → P a

section Content

variable {P : α → Prop} {a : α}

theorem allContent_of_nodes (h : ∀ n ∈ d.nodes, ∀ a, n.2 = .other a → P a) : d.AllContent P := by
  intro place a there
  unfold node? at there
  split at there
  · cases there
  · obtain ⟨n, found, content⟩ := Option.map_eq_some_iff.mp there
    exact h n (List.mem_of_find?_eq_some found) a content

theorem AllContent.at? (h : d.AllContent P) (there : d.at? p = some (.other a)) : P a := by
  obtain ⟨place, -, there⟩ := at?_eq_some.mp there
  exact h place a there

theorem AllContent.of_spares (h : d.AllContent P) (spares : d.Spares d') : d'.AllContent P :=
  fun place a there => h place a ((spares.content place a).mp there)

theorem AllContent.putFile (h : d.AllContent P) (held : P a)
    (made : d.putFile p (.other a) = .ok d') : d'.AllContent P := by
  obtain ⟨place, -, -, rfl⟩ := changeFile_eq_ok made
  intro other b there
  rw [node?_setNode] at there
  split at there
  · cases there
  · split at there
    · cases there
      exact held
    · exact h other b there

end Content

end Recurrence.Disk
