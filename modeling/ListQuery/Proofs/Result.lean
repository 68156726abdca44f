import Mathlib.Data.List.Forall2

/-!
# Results that are right

A computation that stops at the first mistake yields a result only if each of its parts
does.
-/

namespace ListQuery

variable {ε α β : Type}

theorem exists_of_bind_eq_ok {first : Except ε α} {next : α → Except ε β} {result : β}
    (h : first >>= next = .ok result) :
    ∃ value, first = .ok value ∧ next value = .ok result := by
  cases first with
  | error error => cases h
  | ok value => exact ⟨value, rfl, h⟩

theorem exists_of_map_eq_ok {first : Except ε α} {change : α → β} {result : β}
    (h : first.map change = .ok result) : ∃ value, first = .ok value ∧ change value = result := by
  cases first with
  | error error => cases h
  | ok value =>
      cases h
      exact ⟨value, rfl, rfl⟩

theorem exists_of_mem_mapM {change : α → Except ε β} {items : List α} {results : List β}
    (h : items.mapM change = .ok results) :
    ∀ result ∈ results, ∃ item ∈ items, change item = .ok result := by
  induction items generalizing results with
  | nil =>
      cases h
      simp
  | cons item items ih =>
      rw [List.mapM_cons] at h
      obtain ⟨first, hfirst, h⟩ := exists_of_bind_eq_ok h
      obtain ⟨rest, hrest, h⟩ := exists_of_bind_eq_ok h
      cases h
      intro result hmem
      rcases List.mem_cons.mp hmem with rfl | hmem
      · exact ⟨item, List.mem_cons_self, hfirst⟩
      · obtain ⟨other, hother, hresult⟩ := ih hrest result hmem
        exact ⟨other, List.mem_cons_of_mem item hother, hresult⟩

theorem mapM_eq_ok_iff {change : α → Except ε β} {items : List α} {results : List β} :
    items.mapM change = .ok results ↔
      List.Forall₂ (fun item result => change item = .ok result) items results := by
  induction items generalizing results with
  | nil => simp [pure, Except.pure, eq_comm]
  | cons item items ih =>
      rw [List.mapM_cons, List.forall₂_cons_left_iff]
      constructor
      · intro h
        obtain ⟨first, hfirst, h⟩ := exists_of_bind_eq_ok h
        obtain ⟨rest, hrest, h⟩ := exists_of_bind_eq_ok h
        cases h
        exact ⟨first, rest, hfirst, ih.mp hrest, rfl⟩
      · rintro ⟨first, rest, hfirst, hrest, rfl⟩
        simp only [hfirst, ih.mpr hrest]
        rfl

theorem exists_mapM_iff {change : α → Except ε β} {items : List α} :
    (∃ results, items.mapM change = .ok results) ↔
      ∀ item ∈ items, ∃ result, change item = .ok result := by
  simp only [mapM_eq_ok_iff]
  induction items with
  | nil => simp
  | cons item items ih =>
      rw [List.forall_mem_cons, ← ih]
      constructor
      · rintro ⟨_, _ | ⟨hfirst, hrest⟩⟩
        exact ⟨⟨_, hfirst⟩, _, hrest⟩
      · rintro ⟨⟨first, hfirst⟩, rest, hrest⟩
        exact ⟨first :: rest, .cons hfirst hrest⟩

theorem mapM_eq_error_iff {change : α → Except ε β} {items : List α} {error : ε} :
    items.mapM change = .error error ↔ ∃ front item back, items = front ++ item :: back ∧
      (∀ other ∈ front, ∃ result, change other = .ok result) ∧ change item = .error error := by
  induction items with
  | nil => simp [pure, Except.pure]
  | cons first items ih =>
      rw [List.mapM_cons]
      cases hfirst : change first with
      | error found =>
          constructor
          · intro h
            cases h
            exact ⟨[], first, items, rfl, by simp, hfirst⟩
          · rintro ⟨_ | ⟨other, front⟩, item, back, heq, hfront, hitem⟩
            · obtain ⟨rfl, rfl⟩ := List.cons_eq_cons.mp heq
              cases hfirst.symm.trans hitem
              rfl
            · obtain ⟨rfl, rfl⟩ := List.cons_eq_cons.mp heq
              obtain ⟨result, hresult⟩ := hfront _ List.mem_cons_self
              cases hfirst.symm.trans hresult
      | ok value =>
          have hrest : (do
              let first ← Except.ok value
              let rest ← items.mapM change
              pure (first :: rest)) = .error error ↔ items.mapM change = .error error := by
            cases items.mapM change <;> simp [bind, Except.bind, pure, Except.pure]
          rw [hrest, ih]
          constructor
          · rintro ⟨front, item, back, rfl, hfront, hitem⟩
            exact ⟨first :: front, item, back, rfl,
              List.forall_mem_cons.mpr ⟨⟨value, hfirst⟩, hfront⟩, hitem⟩
          · rintro ⟨_ | ⟨other, front⟩, item, back, heq, hfront, hitem⟩
            · obtain ⟨rfl, rfl⟩ := List.cons_eq_cons.mp heq
              cases hfirst.symm.trans hitem
            · obtain ⟨rfl, rfl⟩ := List.cons_eq_cons.mp heq
              exact ⟨front, item, back, rfl, (List.forall_mem_cons.mp hfront).2, hitem⟩

theorem of_foldlM_eq_ok (holds : β → Prop) {step : β → α → Except ε β}
    (hstep : ∀ state item next, holds state → step state item = .ok next → holds next)
    {items : List α} {first last : β} (h : items.foldlM step first = .ok last)
    (hfirst : holds first) : holds last := by
  induction items generalizing first with
  | nil =>
      cases h
      exact hfirst
  | cons item items ih =>
      rw [List.foldlM_cons] at h
      obtain ⟨second, hsecond, h⟩ := exists_of_bind_eq_ok h
      exact ih h (hstep first item second hfirst hsecond)

end ListQuery
