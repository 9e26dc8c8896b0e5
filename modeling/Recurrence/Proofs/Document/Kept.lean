import Recurrence.Document.Reading

/-! What stays in a document. A text that stands under a name of the whole document stays there
whatever lines follow: headings only pass through tables, and no name is given twice. -/

namespace Recurrence

namespace Table

variable {t t' : Table} {name other : Text} {v w : Value}

theorem get?_append (found : t.get? name = some v) (more : Table) : (t ++ more).get? name = some v := by
  obtain ⟨e, first, rfl⟩ := Option.map_eq_some_iff.mp found
  rw [get?, List.find?_append, first]
  rfl

theorem get?_map_of_ne (apart : other ≠ name) (t : Table) :
    get? (t.map fun e => if e.1 == other then (other, w) else e) name = t.get? name := by
  induction t with
  | nil => rfl
  | cons e t ih =>
      rw [get?, get?, List.map_cons, List.find?_cons, List.find?_cons]
      by_cases here : e.1 = other
      · have same : (e.1 == other) = true := beq_iff_eq.mpr here
        have outside : (e.1 == name) = false := beq_false_of_ne (here ▸ apart)
        have changed : (other == name) = false := beq_false_of_ne apart
        rw [same, if_pos rfl, changed, outside]
        exact ih
      · have differs : (e.1 == other) = false := beq_false_of_ne here
        rw [differs, if_neg Bool.false_ne_true]
        cases e.1 == name with
        | true => rfl
        | false => exact ih

theorem get?_set_of_ne (found : t.get? name = some v) (apart : other ≠ name) :
    (t.set other w).get? name = some v := by
  rw [set]
  split
  · rw [get?_map_of_ne apart, found]
  · exact get?_append found _

/-- A step inside a table keeps what stands under a name. -/
def Keeps (change : Table → Option Table) (name : Text) (v : Value) : Prop :=
  ∀ t t', change t = some t' → t.get? name = some v → t'.get? name = some v

theorem keeps_some : Keeps some name v := by
  rintro t _ ⟨⟩ found
  exact found

theorem keeps_add? : Keeps (add? other w) name v := by
  intro t t' added found
  unfold add? at added
  split at added
  · cases added
  · cases added
    exact get?_append found _

variable {text : Text}

theorem keeps_addToList? : Keeps (addToList? other) name (.text text) := by
  intro t t' added found
  unfold addToList? at added
  split at added
  · cases added
    exact get?_append found _
  · rename_i items list
    cases added
    apply get?_set_of_ne found
    rintro rfl
    rw [found] at list
    cases list
  · cases added

/-- A text under a name is not on the way to any table. -/
theorem keeps_updateAt? {enterLists : Bool} {change : Table → Option Table} {names : List Text}
    (kept : Keeps change name (.text text)) :
    Keeps (updateAt? enterLists change names) name (.text text) := by
  intro t t' updated found
  cases names with
  | nil => exact kept t t' updated found
  | cons other names =>
      have apart : t.get? other ≠ some (.text text) → other ≠ name := by
        rintro differs rfl
        exact differs found
      rw [updateAt?] at updated
      split at updated
      · obtain ⟨sub, -, rfl⟩ := Option.map_eq_some_iff.mp updated
        rename_i absent
        exact get?_set_of_ne found (apart (absent ▸ nofun))
      · rename_i table
        obtain ⟨sub, -, rfl⟩ := Option.map_eq_some_iff.mp updated
        exact get?_set_of_ne found (apart (table ▸ nofun))
      · rename_i list
        split at updated
        · obtain ⟨sub, -, rfl⟩ := Option.map_eq_some_iff.mp updated
          exact get?_set_of_ne found (apart (list ▸ nofun))
        · cases updated
      · cases updated

end Table

namespace Document.Draft

variable {d d' : Draft} {t r name text : Text}

theorem get?_tableHeading (read : d.tableHeading t = .ok (d', r))
    (found : d.entries.get? name = some (.text text)) :
    d'.entries.get? name = some (.text text) := by
  unfold tableHeading at read
  split at read
  · cases read
  · split at read
    · rename_i marks entries _ updated
      cases read
      exact Table.keeps_updateAt? Table.keeps_some _ _ updated found
    · cases read
  · cases read

theorem get?_listHeading (read : d.listHeading t = .ok (d', r))
    (found : d.entries.get? name = some (.text text)) :
    d'.entries.get? name = some (.text text) := by
  unfold listHeading at read
  split at read
  · cases read
  · split at read
    · rename_i marks entries _ updated
      cases read
      exact Table.keeps_updateAt? Table.keeps_addToList? _ _ updated found
    · cases read
  · cases read

theorem get?_entry (read : d.entry t = .ok (d', r))
    (found : d.entries.get? name = some (.text text)) :
    d'.entries.get? name = some (.text text) := by
  unfold entry at read
  split at read
  · cases read
  · split at read
    · cases read
    · dsimp only at read
      split at read
      · cases read
      · split at read
        · cases read
        · rename_i entries updated
          cases read
          exact Table.keeps_updateAt? Table.keeps_add? _ _ updated found
  · cases read

/-- No statement changes a text under a name of the whole document. -/
theorem get?_statement (read : d.statement t = .ok (d', r))
    (found : d.entries.get? name = some (.text text)) :
    d'.entries.get? name = some (.text text) := by
  unfold statement at read
  split at read
  · exact get?_listHeading read found
  · exact get?_tableHeading read found
  · cases read
    exact found
  · split at read
    · exact get?_entry read found
    · cases read
  · cases read
    exact found

/-- Nor do all the lines of a document. -/
theorem get?_statements {fuel : Nat} (read : statements fuel d t = .ok d')
    (found : d.entries.get? name = some (.text text)) :
    d'.entries.get? name = some (.text text) := by
  induction fuel generalizing d t with
  | zero =>
      cases read
      exact found
  | succ fuel ih =>
      rw [statements] at read
      split at read
      · cases read
        exact found
      · exact ih read found
      · split at read
        · cases read
        · rename_i d₁ rest statement
          have later := get?_statement statement found
          split at read
          · cases read
          · cases read
            exact later
          · exact ih read later
          · cases read

end Document.Draft

end Recurrence
