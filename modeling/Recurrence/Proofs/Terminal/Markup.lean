import Recurrence.Proofs.Fault
import Recurrence.Terminal.Markup

/-! Which marked text can be shown. That rests on what its tags hold, in their order: text around the
tags, and tags that are closed again before the rest begins, change nothing. -/

namespace Recurrence.Terminal

/-- What a piece holds between its brackets, if it is a tag. -/
def MarkupPiece.body? : MarkupPiece → Option Text
  | .text _ => none
  | .tag body _ => some body

/-- What the tags among pieces hold. -/
def bodies (ps : List MarkupPiece) : List Text := ps.filterMap MarkupPiece.body?

/-- The tags that hold given texts. -/
def tags (bs : List Text) : List MarkupPiece := bs.map fun body => .tag body 0

theorem fails_shownFrom (opened : List OpenTag) (ps : List MarkupPiece) :
    Fails (shownFrom opened ps) ↔ Fails (shownFrom opened (tags (bodies ps))) := by
  induction ps generalizing opened with
  | nil => exact Iff.rfl
  | cons p rest ih =>
      cases p with
      | text t => exact fails_map.trans (ih opened)
      | tag body position =>
          change _ ↔ Fails (shownFrom opened (.tag body 0 :: tags (bodies rest)))
          unfold shownFrom
          split
          · rename_i name _
            split
            · cases opened with
              | nil => exact ⟨fun _ => ⟨_, rfl⟩, fun _ => ⟨_, rfl⟩⟩
              | cons last others =>
                  dsimp only
                  cases last.close with
                  | error fault => exact Iff.rfl
                  | ok u => exact ih others
            · cases normalName (Text.strip name) with
              | error fault => exact Iff.rfl
              | ok name =>
                  dsimp only [Except.bind]
                  cases opened.find? (·.name == name) with
                  | none => exact ⟨fun _ => ⟨_, rfl⟩, fun _ => ⟨_, rfl⟩⟩
                  | some tag =>
                      dsimp only
                      cases tag.close with
                      | error fault => exact Iff.rfl
                      | ok u => exact ih _
          · cases normalName (tagName body) with
            | error fault => exact Iff.rfl
            | ok name => exact ih _

theorem fails_forM_checkStyle (ps : List MarkupPiece) :
    Fails (ps.forM checkStyle) ↔ ∃ body ∈ bodies ps, Fails (checkStyle (.tag body 0)) := by
  induction ps with
  | nil => exact ⟨fun failed => absurd failed (not_fails_ok _), fun ⟨_, absent, _⟩ => nomatch absent⟩
  | cons p rest ih =>
      rw [show (p :: rest).forM checkStyle = checkStyle p >>= fun _ => rest.forM checkStyle from rfl,
        fails_bind, ih]
      cases p with
      | text t =>
          constructor
          · rintro (failed | ⟨_, -, later⟩)
            · exact absurd failed (not_fails_ok _)
            · exact later
          · exact fun later => .inr ⟨(), rfl, later⟩
      | tag body position =>
          change Fails (checkStyle (.tag body 0)) ∨ _ ↔ ∃ b ∈ body :: bodies rest, _
          simp only [List.mem_cons, exists_eq_or_imp]
          constructor
          · rintro (failed | ⟨_, -, later⟩)
            · exact .inl failed
            · exact .inr later
          · rintro (failed | later)
            · exact .inl failed
            · cases first : checkStyle (.tag body position) with
              | error fault => exact .inl ⟨fault, first⟩
              | ok u => exact .inr ⟨(), rfl, later⟩

/-- A marked text cannot be shown where its tags do not match or one of them names no style. -/
theorem fails_shown (t : Text) :
    Fails (shown t) ↔ Fails (shownFrom [] (tags (bodies (pieces t))))
      ∨ ∃ body ∈ bodies (pieces t), Fails (checkStyle (.tag body 0)) := by
  rw [← fails_shownFrom, ← fails_forM_checkStyle]
  unfold shown
  rw [fails_bind]
  cases shownFrom [] (pieces t) with
  | error fault => exact ⟨fun _ => .inl ⟨fault, rfl⟩, fun _ => .inl ⟨fault, rfl⟩⟩
  | ok text =>
      constructor
      · rintro (absent | ⟨_, -, failed⟩)
        · exact absurd absent (not_fails_ok _)
        · rcases fails_bind.mp failed with styles | ⟨_, -, absent⟩
          · exact .inr styles
          · exact absurd absent (not_fails_ok _)
      · rintro (absent | styles)
        · exact absurd absent (not_fails_ok _)
        · exact .inr ⟨text, rfl, fails_bind.mpr (.inl styles)⟩

/-! What the tags of a text hold, as the text is read. -/

section Pieces

variable {position position' skip slashes : Nat} {plain plain' t rest : Text}

theorem beforeBracket?_append (free : ∀ c ∈ rest, c ≠ ']') :
    beforeBracket? (t ++ rest) = beforeBracket? t := by
  induction t with
  | nil =>
      induction rest with
      | nil => rfl
      | cons c rest ih =>
          have later : beforeBracket? rest = none :=
            ih fun d behind => free d (List.mem_cons_of_mem c behind)
          change beforeBracket? (c :: rest) = none
          rw [beforeBracket?, if_neg (free c List.mem_cons_self), later]
          split <;> rfl
  | cons c t ih => rw [List.cons_append, beforeBracket?, beforeBracket?, ih]

theorem bodies_piecesFrom_of_free (free : ∀ c ∈ t, c ≠ '[') :
    bodies (piecesFrom position skip slashes plain t) = [] := by
  induction t generalizing position skip slashes plain with
  | nil =>
      cases skip <;> rfl
  | cons c t ih =>
      have later : ∀ d ∈ t, d ≠ '[' := fun d behind => free d (List.mem_cons_of_mem c behind)
      cases skip with
      | succ skip => exact ih later
      | zero =>
          rw [piecesFrom]
          split
          · exact ih later
          · rw [if_neg (free c List.mem_cons_self)]
            exact ih later

/-- Text behind which no bracket stands holds its tags alone, wherever it is read. -/
theorem bodies_piecesFrom_append (free : ∀ c ∈ rest, c ≠ '[' ∧ c ≠ ']') :
    bodies (piecesFrom position skip slashes plain (t ++ rest))
      = bodies (piecesFrom position' skip slashes plain' t) := by
  induction t generalizing position position' skip slashes plain plain' with
  | nil =>
      rw [List.nil_append, bodies_piecesFrom_of_free fun c member => (free c member).1,
        bodies_piecesFrom_of_free fun _ absent => absurd absent List.not_mem_nil]
  | cons c t ih =>
      cases skip with
      | succ skip => exact ih
      | zero =>
          have same : tagBody? (t ++ rest) = tagBody? t := by
            unfold tagBody?
            rw [beforeBracket?_append fun c member => (free c member).2]
            cases t with
            | nil =>
                rw [beforeBracket?]
                split <;> split <;> rfl
            | cons d t => rfl
          rw [List.cons_append, piecesFrom, piecesFrom, same]
          split
          · exact ih
          · split
            · exact ih
            · rename_i body _
              split
              · exact ih
              · exact congrArg (body :: ·) ih

/-- What is read before a text does not matter to its tags. -/
theorem bodies_piecesFrom : bodies (piecesFrom position 0 0 plain t) = bodies (pieces t) := by
  have alone := @bodies_piecesFrom_append position 0 0 0 plain [] t [] nofun
  rwa [List.append_nil] at alone

theorem bodies_piecesFrom_plain (free : ∀ c ∈ t, c ≠ '[' ∧ c ≠ '\\') :
    bodies (piecesFrom position 0 0 plain (t ++ rest)) = bodies (pieces rest) := by
  induction t generalizing position plain with
  | nil => exact bodies_piecesFrom
  | cons c t ih =>
      obtain ⟨noBracket, noSlash⟩ := free c List.mem_cons_self
      rw [List.cons_append, piecesFrom, if_neg noSlash, if_neg noBracket]
      exact ih fun d behind => free d (List.mem_cons_of_mem c behind)

theorem bodies_piecesFrom_skipped :
    bodies (piecesFrom position t.length 0 plain (t ++ rest)) = bodies (pieces rest) := by
  induction t generalizing position plain with
  | nil => exact bodies_piecesFrom
  | cons c t ih => exact ih

theorem beforeBracket?_closed (free : ∀ c ∈ t, c ≠ '[' ∧ c ≠ ']') :
    beforeBracket? (t ++ ']' :: rest) = some t := by
  induction t with
  | nil => rfl
  | cons c t ih =>
      obtain ⟨noOpening, noClosing⟩ := free c List.mem_cons_self
      rw [List.cons_append, beforeBracket?, if_neg noClosing, if_neg noOpening,
        ih fun d behind => free d (List.mem_cons_of_mem c behind)]
      rfl

theorem bodies_pieces_tag (begins : t.head?.any beginsTag = true)
    (free : ∀ c ∈ t, c ≠ '[' ∧ c ≠ ']') :
    bodies (pieces ('[' :: (t ++ ']' :: rest))) = t :: bodies (pieces rest) := by
  have read : tagBody? (t ++ ']' :: rest) = some t := by
    unfold tagBody?
    rw [beforeBracket?_closed free]
    cases t with
    | nil => cases begins
    | cons c t => exact if_pos begins
  have skipped : (t ++ [']']).length = t.length + 1 := List.length_append
  rw [pieces, piecesFrom, if_neg (by decide), if_pos rfl, read]
  dsimp only
  rw [if_neg (by decide), ← skipped, List.append_cons t ']' rest]
  exact congrArg (t :: ·) bodies_piecesFrom_skipped

end Pieces

section Tags

variable {opened : List OpenTag} {rest : List MarkupPiece} {body name word parameters : Text}
  {position : Nat}

theorem shownFrom_opening (isOpening : (tagName body).head? ≠ some '/')
    (named : normalName (tagName body) = .ok name) :
    shownFrom opened (.tag body position :: rest)
      = shownFrom (⟨name, tagParameters body⟩ :: opened) rest := by
  rw [shownFrom.eq_def]
  dsimp only
  split
  · rename_i closing
    exact absurd (congrArg List.head? closing) isOpening
  · rw [named]
    rfl

/-- The tag that was opened last is closed by its name. -/
theorem shownFrom_closing (isClosing : tagName body = '/' :: word)
    (nonempty : (Text.strip word).isEmpty = false) (named : normalName (Text.strip word) = .ok name) :
    shownFrom (⟨name, parameters⟩ :: opened) (.tag body position :: rest)
      = (OpenTag.close ⟨name, parameters⟩).bind fun _ => shownFrom opened rest := by
  rw [shownFrom.eq_def]
  dsimp only
  split
  · rename_i closing
    cases isClosing.symm.trans closing
    rw [if_neg (Bool.eq_false_iff.mp nonempty), named]
    dsimp only [Except.bind]
    rw [List.find?_cons_of_pos, List.eraseP_cons_of_pos]
    · exact beq_self_eq_true name
    · exact beq_self_eq_true name
  · rename_i opening
    exact absurd isClosing (opening word)

theorem not_fails_checkStyle {style? : Option Style}
    (isOpening : body.head?.any ['/', '@'].contains = false)
    (named : normalName (tagName body) = .ok name)
    (styled : Style.named? (name ++ ' ' :: tagParameters body) = .ok style?) :
    ¬ Fails (checkStyle (.tag body position)) := by
  rw [checkStyle, if_neg (Bool.eq_false_iff.mp isOpening), named]
  change ¬ Fails ((Style.named? (name ++ ' ' :: tagParameters body)).map fun _ => ())
  rw [styled]
  exact not_fails_ok ()

end Tags

theorem named?_green {t : Text} (alone : blankSeparated t = ["green".toList]) :
    Style.named? t = .ok (some { colour := some "green".toList }) := by
  have listed : colourNames.contains "green".toList = true := by
    unfold colourNames
    simp only [String.toList_append]
    repeat rw [String.toList_ofList]
    decide +kernel
  have small : Text.lower "green".toList = "green".toList := by decide +kernel
  have colour : isColour "green".toList = .ok true := by
    unfold isColour
    rw [listed]
    rfl
  rw [Style.named?, alone, Style.ofWords?, small, if_neg (by decide), if_neg (by decide),
    if_neg (by decide), show attribute? "green".toList = none by decide, colour]
  rfl

/-- A text is shown behind words in green, and in front of words without brackets, where it is shown
by itself. -/
theorem fails_shown_behindGreen {green front t rest : Text}
    (free : ∀ c ∈ green ++ front, c ≠ '[' ∧ c ≠ '\\') (freeRest : ∀ c ∈ rest, c ≠ '[' ∧ c ≠ ']') :
    Fails (shown ("[green]".toList ++ green ++ "[/green]".toList ++ front ++ t ++ rest))
      ↔ Fails (shown t) := by
  have around : bodies (pieces ("[green]".toList ++ green ++ "[/green]".toList ++ front ++ t ++ rest))
      = "green".toList :: "/green".toList :: bodies (pieces t) := by
    have opening : "[green]".toList = '[' :: ("green".toList ++ [']']) := by decide
    have closing : "[/green]".toList = '[' :: ("/green".toList ++ [']']) := by decide
    rw [opening, closing]
    simp only [List.cons_append, List.append_assoc, List.nil_append]
    rw [bodies_pieces_tag (by decide) (by decide), pieces,
      bodies_piecesFrom_plain fun c member => free c (List.mem_append_left front member),
      bodies_pieces_tag (by decide) (by decide), pieces,
      bodies_piecesFrom_plain fun c member => free c (List.mem_append_right green member)]
    exact congrArg ("green".toList :: "/green".toList :: ·) (bodies_piecesFrom_append freeRest)
  have named : normalName "green".toList = .ok "green".toList := by
    rw [normalName, if_neg (by decide +kernel), named?_green (by decide +kernel)]
    exact congrArg Except.ok (by decide +kernel)
  have cut : tagName "green".toList = "green".toList := by decide +kernel
  have matched : shownFrom [] (tags ("green".toList :: "/green".toList :: bodies (pieces t)))
      = shownFrom [] (tags (bodies (pieces t))) := by
    have opened := @shownFrom_opening [] (.tag "/green".toList 0 :: tags (bodies (pieces t)))
      "green".toList "green".toList 0 (by decide +kernel) (by rw [cut, named])
    have closed := @shownFrom_closing [] (tags (bodies (pieces t))) "/green".toList "green".toList
      "green".toList [] 0 (by decide +kernel) (by decide +kernel) (by
        rw [show Text.strip "green".toList = "green".toList by decide +kernel, named])
    exact opened.trans closed
  have styled : ¬ Fails (checkStyle (.tag "green".toList 0)) := by
    exact not_fails_checkStyle (by decide +kernel) (by rw [cut, named])
      (named?_green (by decide +kernel))
  have closed : ¬ Fails (checkStyle (.tag "/green".toList 0)) := not_fails_ok ()
  rw [fails_shown, fails_shown t, around, matched]
  simp only [List.mem_cons, exists_eq_or_imp, styled, closed, false_or]

end Recurrence.Terminal
