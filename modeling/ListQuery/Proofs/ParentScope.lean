import ListQuery.Proofs.Assembly

/-!
# Rows of a parent

A query that lists the rows of a parent has a condition that the filter of the query cannot
widen: the test of the parent and whatever the query demands by itself.
-/

namespace ListQuery.Assembly

/-- The condition of a scoped query is the test of its parent and the condition of the same
query without a scope, for the rows and for their number alike. -/
theorem value_rows_of_scope {α : Type} [Lattice α] [BoundedOrder α] (assignment : Assignment α)
    (table : String) (model : Model) (joined : JoinRegistry) (query : Query)
    (scope : ParentScope) (paginate : Bool) :
    let ofParent := Draft.ofSteps table (ofQuery model joined query (some scope) paginate).steps
    let whole := Draft.ofSteps table (ofQuery model joined query none paginate).steps
    let belongs := assignment (model.qualify scope.foreignKey) (.compare .equal scope.parentId)
    ofParent.rows.selection.condition.map (Clause.value assignment) =
        some (belongs ⊓ whole.rows.value assignment) ∧
      (ofParent.rows.value assignment = ⊤ → belongs = ⊤) ∧
      ofParent.count.selection.condition = ofParent.rows.selection.condition := by
  intro ofParent whole belongs
  have hparent : ofParent.rows.selection.condition.map (Clause.value assignment) =
      some (belongs ⊓ whole.rows.value assignment) := by
    rw [Statement.value, Draft.map_value_condition_ofSteps, Draft.map_value_condition_ofSteps,
      Linked.ofSteps, Linked.ofSteps, links_ofQuery, links_ofQuery]
    cases hclause : query.condition.clause? with
    | none =>
        simp [links, scopeLink, hclause, Linked.value?, Linked.continued, Clause.value, belongs]
    | some clause =>
        simp [links, scopeLink, hclause, Linked.value?, Linked.continued, Clause.value, belongs]
  refine ⟨hparent, ?_, Draft.condition_count ofParent⟩
  intro htop
  rw [Statement.value, hparent, Option.getD_some] at htop
  exact top_le_iff.mp (htop.symm.le.trans inf_le_left)

end ListQuery.Assembly
