import Mathlib.Data.List.SplitBy
import ListQuery.Proofs.Draft

/-!
# The precedence of connectives

Whatever steps a draft takes, its condition has the value of their flat reading: the links are
cut into runs before every disjunction but a leading one, a run is the conjunction of its
values, and the whole is the disjunction of the runs.  A group counts as one value, that of its
own reading.
-/

namespace ListQuery

variable {α : Type}

/-! ## Runs of linked values -/

namespace Linked

/-- The values of links, cut before each disjunction.  The first link is not looked at. -/
def runs (links : List (Connective × α)) : List (List α) :=
  (links.splitBy fun _ next => next.1 = .and).map fun run => run.map (·.2)

example : runs [(.or, 1), (.and, 2), (.or, 3), (.and, 4), (.or, 5)] = [[1, 2], [3, 4], [5]] := by
  decide

abbrev IsRun (links : List (Connective × α)) : Prop :=
  links.IsChain fun _ next => decide (next.1 = .and) = true

theorem isRun_singleton (link : Connective × α) : IsRun [link] :=
  List.isChain_singleton _

theorem runs_of_isRun {run : List (Connective × α)} (hne : run ≠ []) (h : IsRun run) :
    runs run = [run.map (·.2)] := by
  rw [runs, List.splitBy_of_isChain hne h, List.map_singleton]

theorem runs_append_or (front rest : List (Connective × α)) (value : α) :
    runs (front ++ (.or, value) :: rest) = runs front ++ runs ((.or, value) :: rest) := by
  rw [runs, List.splitBy_append_cons rest (by simp), List.map_append]
  rfl

theorem IsRun.concat {run : List (Connective × α)} (h : IsRun run) (value : α) :
    IsRun (run ++ [(.and, value)]) := by
  rw [IsRun, List.isChain_append]
  exact ⟨h, List.isChain_singleton _, by simp⟩

variable [Lattice α] [BoundedOrder α]

/-- Linked values read as a disjunction of conjunctions; nothing is read from no values. -/
def reading : List (Connective × α) → Option α
  | [] => none
  | link :: links => some (disjunction ((runs (link :: links)).map conjunction))

theorem continued_eq {run : List (Connective × α)} (hne : run ≠ []) (h : IsRun run)
    (rest : List (Connective × α)) :
    continued (conjunction (run.map (·.2))) rest =
      disjunction ((runs (run ++ rest)).map conjunction) := by
  induction rest generalizing run with
  | nil => simp [continued, runs_of_isRun hne h]
  | cons link rest ih =>
      obtain ⟨connective, value⟩ := link
      cases connective with
      | and =>
          have hrun := ih (by simp) (h.concat value)
          rw [← List.append_cons] at hrun
          rw [continued, ← hrun]
          simp [conjunction_append]
      | or =>
          have hrest := ih (by simp) (isRun_singleton (.or, value))
          rw [List.singleton_append] at hrest
          rw [continued, runs_append_or, List.map_append, disjunction_append, ← hrest,
            runs_of_isRun hne h]
          simp

theorem value?_eq_reading (links : List (Connective × α)) : value? links = reading links := by
  cases links with
  | nil => rfl
  | cons link links =>
      obtain ⟨connective, value⟩ := link
      have hrun := continued_eq (by simp) (isRun_singleton (connective, value)) links
      rw [List.singleton_append] at hrun
      rw [value?, reading, ← hrun]
      simp

end Linked

/-! ## The reading of steps -/

theorem Filter.test?_eq_none_iff (filter : Filter) :
    filter.test? = none ↔
      ∃ test values, filter = .set test values ∧ test.isRange = true ∧ values.length ≠ 2 := by
  cases filter with
  | null test => simp [test?]
  | compare comparison value => cases comparison <;> simp [test?]
  | set test values =>
      rcases values with _ | ⟨low, _ | ⟨high, _ | ⟨third, values⟩⟩⟩ <;>
        cases test <;> simp [test?, SetTest.isRange]

variable [Lattice α] [BoundedOrder α]

namespace Step

variable (assignment : Assignment α)

mutual

/-- The value that a step adds to those before it, and how it is linked to them. -/
def atom? : Step → Option (Connective × α)
  | .action (.test connective column filter) =>
      filter.test?.map fun check => (connective, assignment column check)
  | .action _ => none
  | .group connective steps =>
      (Linked.reading (atoms steps)).map fun value => (connective, value)

def atoms : List Step → List (Connective × α)
  | [] => []
  | step :: steps => (atom? step).toList ++ atoms steps

end

mutual

theorem atom?_eq : ∀ step : Step,
    (Link.ofStep? step).map (fun link => (link.1, link.2.value assignment)) =
      step.atom? assignment
  | .action (.test connective column filter) => by
      simp [Link.ofStep?, atom?, Function.comp_def, Clause.value]
  | .action (.selectAll _) => rfl
  | .action (.select _) => rfl
  | .action (.leftJoin _) => rfl
  | .action (.orderBy _) => rfl
  | .action (.paginate _ _) => rfl
  | .group connective steps => by
      have hinner := Chain.map_value_clause?_ofLinks assignment (Link.ofSteps steps)
      rw [Linked.value?_eq_reading, atoms_eq steps] at hinner
      simp [Link.ofStep?, atom?, Function.comp_def, ← hinner]

theorem atoms_eq : ∀ steps : List Step,
    (Link.ofSteps steps).map (fun link => (link.1, link.2.value assignment)) =
      atoms assignment steps
  | [] => rfl
  | step :: steps => by
      rw [Link.ofSteps, List.map_append, atoms_eq steps, atoms, ← atom?_eq step,
        Option.toList_map]

end

end Step

/-- The condition of a draft has the value that its steps are read as, conjunctions first.  A
step adds at most one link to the chain before it, of the value that the step is read as, and
none if it is a range without two bounds or a group that is left without tests. -/
theorem Draft.condition_reads_steps (assignment : Assignment α) (table : String)
    (steps : List Step) :
    (ofSteps table steps).rows.selection.condition.map (Clause.value assignment) =
        Linked.reading (Step.atoms assignment steps) ∧
      (∀ filter : Filter, filter.test? = none ↔
        ∃ test values, filter = .set test values ∧ test.isRange = true ∧ values.length ≠ 2) ∧
      ∀ (draft : Draft) (step : Step), ∃ link? : Option Link,
        (∀ assignment : Assignment α,
          link?.map (fun link => (link.1, link.2.value assignment)) = step.atom? assignment) ∧
        (draft.add step).chain =
          link?.elim draft.chain fun link => draft.chain.push link.1 link.2 := by
  refine ⟨?_, Filter.test?_eq_none_iff, ?_⟩
  · rw [map_value_condition_ofSteps, Linked.value?_eq_reading, Linked.ofSteps, Step.atoms_eq]
  · intro draft step
    refine ⟨Link.ofStep? step, fun assignment => Step.atom?_eq assignment step, ?_⟩
    rw [chain_add]
    cases Link.ofStep? step <;> rfl

end ListQuery
