import ListQuery.Proofs.Command
import ListQuery.Proofs.Interleaving

/-!
# Statements of one page and of all pages

The rows of a page and the number of all rows are asked for by two commands.  Both hold the
command for the rows of all pages as it stands, with its values in its places: the one in
front of the limit and the offset, the other between parentheses.
-/

namespace ListQuery

open Sql

/-! ## Commands -/

theorem Sql.Dialect.command_append (dialect : Dialect) (front back : List Piece) :
    let before := dialect.command front
    dialect.command (front ++ back) =
      ⟨before.text ++ dialect.templateFrom (before.values.length + 1) back,
        before.values ++ bounds back⟩ := by
  intro before
  have htext : dialect.template (front ++ back) =
      before.text ++ dialect.templateFrom (before.values.length + 1) back := by
    rw [Dialect.template, templateFrom_append, Nat.add_comm 1]
    rfl
  have hvalues : bounds (front ++ back) = before.values ++ bounds back := bounds_append front back
  rw [Dialect.command, htext]
  exact congrArg (Command.mk _) hvalues

theorem Selection.pieces_eq_append (selection : Selection) (window? : Option Window) :
    { selection with window := window? }.pieces =
      { selection with window := none }.pieces ++ window?.elim [] Window.pieces := by
  cases window? <;> simp [pieces, windowPieces, conditionPieces, orderPieces]

namespace Statement

theorem command_count (selection : Selection) (dialect : Dialect) :
    let all := (Statement.rows selection).command dialect
    (Statement.count selection).command dialect =
      ⟨"SELECT COUNT(*) AS " ++ dialect.name "total" ++ " FROM (" ++ all.text ++ ") AS " ++
          dialect.name "counted", all.values⟩ := by
  intro all
  -- No value is in front of the inner command, so its values keep their numbers.
  have htext : dialect.template (Statement.count selection).pieces =
      "SELECT COUNT(*) AS " ++ dialect.name "total" ++ " FROM (" ++ all.text ++ ") AS " ++
        dialect.name "counted" := by
    have hopen : " FROM (" = " FROM " ++ "(" := rfl
    have hclose : ") AS " = ")" ++ " AS " := rfl
    rw [hopen, hclose]
    simp only [pieces, parenthesized, Dialect.template, Dialect.templateFrom,
      Dialect.templateFrom_append, List.cons_append, List.nil_append, String.append_assoc,
      String.append_empty]
    rfl
  have hvalues : bounds (Statement.count selection).pieces = bounds selection.pieces := by
    simp [pieces]
  rw [command, Dialect.command, htext]
  exact congrArg (Command.mk _) hvalues

theorem command_window (selection : Selection) (window : Window) (dialect : Dialect) :
    let all := (Statement.rows { selection with window := none }).command dialect
    (Statement.rows { selection with window := some window }).command dialect =
      ⟨all.text ++ " LIMIT " ++ dialect.placeholder (all.values.length + 1) ++ " OFFSET " ++
          dialect.placeholder (all.values.length + 2),
        all.values ++ [.rows window.limit, .rows window.offset]⟩ := by
  intro all
  have hpieces : (Statement.rows { selection with window := some window }).pieces =
      (Statement.rows { selection with window := none }).pieces ++ window.pieces :=
    selection.pieces_eq_append (some window)
  rw [command, hpieces, Dialect.command_append]
  simp [Window.pieces, Dialect.templateFrom, all, command, String.append_assoc]

end Statement

/-! ## Programs -/

namespace Step

def unpaged (steps : List Step) : List Step := keepAll (fun made => made.kind ≠ .page) steps

theorem ofKind_unpaged {kind : Action.Kind} (h : kind ≠ .page) (steps : List Step) :
    Action.ofKind kind (unpaged steps) = Action.ofKind kind steps := by
  rw [Action.ofKind, unpaged, actions_keepAll, List.filter_filter]
  refine List.filter_congr ?_
  intro action _
  by_cases hkind : action.kind = kind <;> simp [hkind, h]

theorem links_unpaged (steps : List Step) : Link.ofSteps (unpaged steps) = Link.ofSteps steps := by
  refine links_keepAll ?_ steps
  intro action htest
  simp [htest]

theorem lastPage?_unpaged (steps : List Step) : lastPage? (unpaged steps) = none := by
  rw [lastPage?, unpaged, actions_keepAll, List.getLast?_eq_none_iff, List.filterMap_eq_nil_iff]
  intro action haction
  cases action <;> simp_all [Action.kind, Action.page?]

end Step

namespace Draft

theorem ofSteps_unpaged (table : String) (steps : List Step) :
    ofSteps table (Step.unpaged steps) = { ofSteps table steps with window := none } := by
  rw [ofSteps_eq_parts, ofSteps_eq_parts, Step.links_filters, Step.links_filters,
    Step.links_unpaged, Step.lastPage?_unpaged, Step.ofKind_unpaged (by decide),
    Step.ofKind_unpaged (by decide), Step.ofKind_unpaged (by decide)]
  rfl

/-- The number of rows is that of the statement without pages, and the rows of a page are
those of the same statement from the offset of the page on, up to its limit. -/
theorem commands_of_unpaged (table : String) (steps : List Step) (dialect : Dialect) :
    let draft := ofSteps table steps
    let all := (ofSteps table (Step.unpaged steps)).rows.command dialect
    draft.count.command dialect =
        ⟨"SELECT COUNT(*) AS " ++ dialect.name "total" ++ " FROM (" ++ all.text ++ ") AS " ++
            dialect.name "counted", all.values⟩ ∧
      draft.rows.command dialect =
        match Step.lastPage? steps with
        | none => all
        | some (perPage, page) =>
            ⟨all.text ++ " LIMIT " ++ dialect.placeholder (all.values.length + 1) ++
                " OFFSET " ++ dialect.placeholder (all.values.length + 2),
              all.values ++
                [.rows (Window.of perPage page).limit, .rows (Window.of perPage page).offset]⟩ := by
  intro draft all
  have hall : all = (Statement.rows draft.unpaged).command dialect := by
    simp only [all, ofSteps_unpaged]
    rfl
  have hwindow : draft.window = (Step.lastPage? steps).map fun page => .of page.1 page.2 := by
    simp only [draft, ofSteps_eq_parts]
  constructor
  · rw [hall]
    exact Statement.command_count draft.unpaged dialect
  · have hrows : draft.rows = .rows { draft.unpaged with window := draft.window } := rfl
    rw [hrows, hwindow, hall]
    cases Step.lastPage? steps with
    | none => rfl
    | some page => exact Statement.command_window draft.unpaged _ dialect

end Draft

end ListQuery
