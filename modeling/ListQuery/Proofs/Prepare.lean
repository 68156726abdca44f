import ListQuery.Proofs.Assembly
import ListQuery.Proofs.Parse
import ListQuery.Service.Prepare

/-!
# Accepted requests

An accepted request has the model that it names, the query that is parsed for this model, and
the draft of the steps that the query is assembled to.
-/

namespace ListQuery

theorem Query.isOfPair_of_parse {catalog : Catalog} {model : Model} {raw : RawQuery}
    {query : Query} (h : parse catalog model raw = .ok query) :
    ∀ predicate ∈ query.condition.predicates, predicate.IsOfPair catalog model := by
  obtain ⟨hcondition, -⟩ := parse_eq_ok h
  exact Condition.isOfPair_of_compile hcondition

namespace Request

variable {catalog : Catalog} {request : Request} {prepared : Prepared}

theorem prepare_eq_ok_iff :
    request.prepare catalog = .ok prepared ↔
      catalog.model? request.model = some prepared.model ∧
        Query.parse catalog prepared.model request.raw = .ok prepared.query ∧
        prepared = request.assemble prepared.model prepared.query := by
  constructor
  · intro h
    unfold prepare at h
    split at h
    · cases h
    · next model hmodel =>
        obtain ⟨query, hquery, h⟩ := exists_of_bind_eq_ok h
        cases h
        exact ⟨hmodel, hquery, rfl⟩
  · rintro ⟨hmodel, hquery, hprepared⟩
    rw [hprepared, prepare]
    simp only [hmodel, hquery]
    rfl

theorem rows_of_prepare (h : request.prepare catalog = .ok prepared) :
    prepared.draft.rows = .rows (Assembly.selection prepared.model .empty prepared.query
      request.scope? request.paginate prepared.model.table) := by
  obtain ⟨-, -, hprepared⟩ := prepare_eq_ok_iff.mp h
  rw [hprepared]
  exact Assembly.rows_ofQuery ..

theorem table_of_prepare (h : request.prepare catalog = .ok prepared) :
    prepared.draft.table = prepared.model.table :=
  congrArg (fun statement => statement.selection.table) (rows_of_prepare h)

theorem columns_of_prepare (h : request.prepare catalog = .ok prepared) :
    prepared.draft.columns =
      (Assembly.projectionAction prepared.model prepared.query).projections :=
  congrArg (fun statement => statement.selection.columns) (rows_of_prepare h)

theorem joins_of_prepare (h : request.prepare catalog = .ok prepared) :
    prepared.draft.joins =
      (Assembly.neededJoins prepared.model .empty prepared.query).map Join.toLeftJoin :=
  congrArg (fun statement => statement.selection.joins) (rows_of_prepare h)

end Request

end ListQuery
