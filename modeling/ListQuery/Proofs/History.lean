import Mathlib.Data.List.Forall2
import ListQuery.Catalog.Registry

/-!
# Histories of registries

A registry that starts empty has seen a history of registrations.  It keeps those that no later
one of the same name replaced, in the order in which they came, and what it finds by a name or by
a table is found among them.
-/

namespace ListQuery.Registry

/-- The model was registered at this place of the history, and none of its name after it. -/
structure IsCurrent (history : List Model) (place : Nat) (model : Model) : Prop where
  registered : history[place]? = some model
  unreplaced : ∀ later other, place < later → history[later]? = some other →
    other.name ≠ model.name

def current : List Model → List Model
  | [] => []
  | model :: later =>
      if model.name ∈ later.map (·.name) then current later else model :: current later

variable {history later : List Model} {first model other : Model} {place : Nat}

/-! ## Registrations one after the other -/

theorem models_foldl_register (registry : Registry) (history : List Model) :
    (history.foldl register registry).models =
      registry.models.filter (·.name ∉ history.map (·.name)) ++ current history := by
  induction history generalizing registry with
  | nil => simp [current]
  | cons model later ih =>
      have hkept : (registry.models.filter (·.name ≠ model.name)).filter
          (·.name ∉ later.map (·.name)) =
          registry.models.filter (·.name ∉ (model :: later).map (·.name)) := by
        rw [List.filter_filter]
        congr 1
        funext candidate
        rw [← Bool.decide_and]
        simp only [List.map_cons, List.mem_cons, not_or, ne_eq, and_comm]
      rw [List.foldl_cons, ih, register, List.filter_append, hkept, List.append_assoc, current]
      split
      · next hreplaced =>
          rw [List.filter_cons_of_neg (by simpa using hreplaced)]
          rfl
      · next hlast =>
          rw [List.filter_cons_of_pos (by simpa using hlast)]
          rfl

theorem models_ofList (history : List Model) : (ofList history).models = current history := by
  rw [ofList, models_foldl_register]
  rfl

theorem mem_names_current_iff {name : String} :
    name ∈ (current history).map (·.name) ↔ name ∈ history.map (·.name) := by
  induction history with
  | nil => rfl
  | cons model later ih =>
      rw [current, List.map_cons, List.mem_cons]
      split
      · next hreplaced =>
          rw [ih]
          exact ⟨.inr, fun h => h.elim (fun heq => heq ▸ hreplaced) id⟩
      · rw [List.map_cons, List.mem_cons, ih]

theorem nodup_names_current (history : List Model) : ((current history).map (·.name)).Nodup := by
  induction history with
  | nil => exact .nil
  | cons model later ih =>
      rw [current]
      split
      · exact ih
      · next hlast =>
          rw [← mem_names_current_iff] at hlast
          exact List.nodup_cons.mpr ⟨hlast, ih⟩

/-! ## Places -/

theorem isCurrent_zero_iff :
    IsCurrent (first :: later) 0 model ↔ first = model ∧ first.name ∉ later.map (·.name) := by
  constructor
  · rintro ⟨hfirst, hlast⟩
    cases hfirst
    refine ⟨rfl, fun hmem => ?_⟩
    obtain ⟨other, hother, hname⟩ := List.mem_map.mp hmem
    obtain ⟨place, hplace⟩ := List.mem_iff_getElem?.mp hother
    exact hlast (place + 1) other (Nat.succ_pos place) hplace hname
  · rintro ⟨rfl, hlast⟩
    refine ⟨rfl, fun place other hplace hother hname => hlast ?_⟩
    cases place with
    | zero => exact absurd hplace (Nat.lt_irrefl 0)
    | succ place =>
        rw [List.getElem?_cons_succ] at hother
        exact hname ▸ List.mem_map_of_mem (List.mem_of_getElem? hother)

theorem isCurrent_succ_iff :
    IsCurrent (first :: later) (place + 1) model ↔ IsCurrent later place model := by
  constructor
  · rintro ⟨hplace, hlast⟩
    exact ⟨hplace, fun after other hafter => hlast (after + 1) other (by omega)⟩
  · rintro ⟨hplace, hlast⟩
    refine ⟨hplace, fun after other hafter hother => ?_⟩
    cases after with
    | zero => exact absurd hafter (Nat.not_lt_zero _)
    | succ after => exact hlast after other (by omega) hother

theorem IsCurrent.place_eq {second : Nat} (hfirst : IsCurrent history place model)
    (hsecond : IsCurrent history second other) (hname : model.name = other.name) :
    place = second := by
  rcases Nat.lt_trichotomy place second with hlt | heq | hgt
  · exact absurd hname.symm (hfirst.unreplaced second other hlt hsecond.registered)
  · exact heq
  · exact absurd hname (hsecond.unreplaced place model hgt hfirst.registered)

theorem exists_places (history : List Model) :
    ∃ places : List Nat, places.Pairwise (· < ·) ∧
      (∀ place, place ∈ places ↔ ∃ model, IsCurrent history place model) ∧
      List.Forall₂ (IsCurrent history) places (current history) := by
  induction history with
  | nil =>
      refine ⟨[], .nil, fun place => ⟨nofun, ?_⟩, .nil⟩
      rintro ⟨model, hplace, -⟩
      cases hplace
  | cons first later ih =>
      obtain ⟨places, horder, hplaces, hmodels⟩ := ih
      have hsorted : (places.map (· + 1)).Pairwise (· < ·) := by
        rw [List.pairwise_map]
        exact horder.imp Nat.succ_lt_succ
      have hsucc (place : Nat) : place + 1 ∈ places.map (· + 1) ↔
          ∃ model, IsCurrent (first :: later) (place + 1) model := by
        simp only [isCurrent_succ_iff, ← hplaces]
        simp
      have hshifted : List.Forall₂ (IsCurrent (first :: later)) (places.map (· + 1))
          (current later) := by
        rw [List.forall₂_map_left_iff]
        exact hmodels.imp fun _ _ => isCurrent_succ_iff.mpr
      rw [current]
      split
      · next hreplaced =>
          refine ⟨places.map (· + 1), hsorted, fun place => ?_, hshifted⟩
          cases place with
          | zero => simp only [isCurrent_zero_iff]; simp [hreplaced]
          | succ place => exact hsucc place
      · next hlast =>
          refine ⟨0 :: places.map (· + 1), ?_, fun place => ?_, ?_⟩
          · exact List.pairwise_cons.mpr ⟨by simp, hsorted⟩
          · cases place with
            | zero => simp only [isCurrent_zero_iff]; simp [hlast]
            | succ place => simpa using hsucc place
          · exact .cons (isCurrent_zero_iff.mpr ⟨rfl, hlast⟩) hshifted

/-! ## Lookups -/

/-- The model is the earliest of the current registrations for which a test holds. -/
def IsEarliest (history : List Model) (holds : Model → Bool) (model : Model) : Prop :=
  ∃ place, IsCurrent history place model ∧ holds model = true ∧
    ∀ earlier other, earlier < place → IsCurrent history earlier other → holds other = false

theorem isEarliest_cons_iff {holds : Model → Bool}
    (hfirst : ∀ other, IsCurrent (first :: later) 0 other → holds other = false) :
    IsEarliest (first :: later) holds model ↔ IsEarliest later holds model := by
  constructor
  · rintro ⟨place, hplace, hmodel, hearlier⟩
    cases place with
    | zero => exact absurd (hmodel.symm.trans (hfirst model hplace)) (by decide)
    | succ place =>
        refine ⟨place, isCurrent_succ_iff.mp hplace, hmodel, fun earlier other hlt hother => ?_⟩
        exact hearlier (earlier + 1) other (by omega) (isCurrent_succ_iff.mpr hother)
  · rintro ⟨place, hplace, hmodel, hearlier⟩
    refine ⟨place + 1, isCurrent_succ_iff.mpr hplace, hmodel, fun earlier other hlt hother => ?_⟩
    cases earlier with
    | zero => exact hfirst other hother
    | succ earlier => exact hearlier earlier other (by omega) (isCurrent_succ_iff.mp hother)

theorem find?_current_eq_some_iff {holds : Model → Bool} :
    (current history).find? holds = some model ↔ IsEarliest history holds model := by
  induction history with
  | nil =>
      refine ⟨nofun, ?_⟩
      rintro ⟨place, ⟨hplace, -⟩, -⟩
      cases hplace
  | cons first later ih =>
      rw [current]
      split
      · next hreplaced =>
          rw [ih, isEarliest_cons_iff]
          exact fun other hother => absurd hreplaced (isCurrent_zero_iff.mp hother).2
      · next hlast =>
          have hzero : IsCurrent (first :: later) 0 first := isCurrent_zero_iff.mpr ⟨rfl, hlast⟩
          cases hholds : holds first with
          | false =>
              rw [List.find?_cons_of_neg (by simp [hholds]), ih, isEarliest_cons_iff]
              intro other hother
              obtain ⟨rfl, -⟩ := isCurrent_zero_iff.mp hother
              exact hholds
          | true =>
              rw [List.find?_cons_of_pos hholds]
              constructor
              · rintro ⟨⟩
                exact ⟨0, hzero, hholds, nofun⟩
              · rintro ⟨place, hplace, -, hearlier⟩
                cases place with
                | zero => rw [(isCurrent_zero_iff.mp hplace).1]
                | succ place =>
                    have hnot := hearlier 0 first (Nat.succ_pos place) hzero
                    exact absurd (hholds.symm.trans hnot) (by decide)

theorem isEarliest_name_iff {name : String} :
    IsEarliest history (·.name = name) model ↔
      ∃ place, IsCurrent history place model ∧ model.name = name := by
  constructor
  · rintro ⟨place, hplace, hname, -⟩
    exact ⟨place, hplace, by simpa using hname⟩
  · rintro ⟨place, hplace, rfl⟩
    refine ⟨place, hplace, by simp, fun earlier other hlt hother => ?_⟩
    rw [decide_eq_false_iff_not]
    exact fun hname => Nat.ne_of_lt hlt (hother.place_eq hplace hname)

theorem isEarliest_table_iff {table : String} :
    IsEarliest history (·.table = table) model ↔
      ∃ place, IsCurrent history place model ∧ model.table = table ∧
        ∀ earlier other, earlier < place → IsCurrent history earlier other →
          other.table ≠ table := by
  simp [IsEarliest]

/-- After a history a registry has the current registration of each name, in the order of their
places.  A name leads to its current registration, and a table to the earliest of the current
registrations that have it. -/
theorem lookups_of_history (history : List Model) :
    let registry := ofList history
    (registry.models.map (·.name)).Nodup ∧
      (∀ name, name ∈ registry.models.map (·.name) ↔ name ∈ history.map (·.name)) ∧
      (∃ places : List Nat, places.Pairwise (· < ·) ∧
        (∀ place, place ∈ places ↔ ∃ model, IsCurrent history place model) ∧
        List.Forall₂ (IsCurrent history) places registry.models) ∧
      (∀ name model, registry.catalog.model? name = some model ↔
        ∃ place, IsCurrent history place model ∧ model.name = name) ∧
      ∀ table model, registry.catalog.modelOfTable? table = some model ↔
        ∃ place, IsCurrent history place model ∧ model.table = table ∧
          ∀ earlier other, earlier < place → IsCurrent history earlier other →
            other.table ≠ table := by
  intro registry
  have hmodels : registry.models = current history := models_ofList history
  rw [hmodels]
  refine ⟨nodup_names_current history, fun name => mem_names_current_iff,
    exists_places history, fun name model => ?_, fun table model => ?_⟩
  · rw [catalog, hmodels, find?_current_eq_some_iff, isEarliest_name_iff]
  · rw [catalog, hmodels, find?_current_eq_some_iff, isEarliest_table_iff]

end ListQuery.Registry
