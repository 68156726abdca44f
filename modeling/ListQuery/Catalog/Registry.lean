import ListQuery.Catalog.Basic

/-!
# Catalogs

A catalog finds models by name and by table.  A registry is a catalog kept in a list: a
model registered again replaces the one of its name and moves to the end.
-/

namespace ListQuery

structure Catalog where
  model? : String → Option Model
  modelOfTable? : String → Option Model

structure Registry where
  models : List Model

namespace Registry

def empty : Registry := ⟨[]⟩

def register (registry : Registry) (model : Model) : Registry :=
  ⟨registry.models.filter (·.name ≠ model.name) ++ [model]⟩

def ofList (models : List Model) : Registry := models.foldl register empty

def catalog (registry : Registry) : Catalog where
  model? name := registry.models.find? (·.name = name)
  modelOfTable? table := registry.models.find? (·.table = table)

@[simp] theorem model?_register_self (registry : Registry) (model : Model) :
    (registry.register model).catalog.model? model.name = some model := by
  have hfront : (registry.models.filter (·.name ≠ model.name)).find?
      (·.name = model.name) = none := by
    rw [List.find?_eq_none]
    intro other hother
    simpa using (List.mem_filter.mp hother).2
  simp only [register, catalog, List.find?_append, hfront]
  simp

theorem model?_register_of_ne (registry : Registry) {model : Model} {name : String}
    (h : name ≠ model.name) :
    (registry.register model).catalog.model? name = registry.catalog.model? name := by
  have hlast : [model].find? (·.name = name) = none := by simp [Ne.symm h]
  simp only [register, catalog, List.find?_append, hlast, Option.or_none,
    List.find?_filter]
  congr 1
  funext candidate
  by_cases hname : candidate.name = name <;> simp [hname, h]

end Registry

end ListQuery
