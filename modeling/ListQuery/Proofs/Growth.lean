import ListQuery.Proofs.Parse
import ListQuery.Proofs.Route

/-!
# Loads that grow

The loads of a directive grow with its routes, one after the other.  A route that leads to its
end is always added, one with a mistake never, and what has grown depends on nothing but the
routes and the order in which they were first mentioned.
-/

namespace ListQuery

namespace EagerLoad

variable {catalog : Catalog} {model : Model} {routes : List (List String)}
  {loads : List EagerLoad}

/-! ## Loads that grow -/

/-- The loads that have grown from routes: one for each name that a route starts with, and
beneath it those that have grown from the rest of these routes. -/
inductive Grown (catalog : Catalog) :
    Model → List (List String) → List EagerLoad → Prop
  | intro {model : Model} {routes : List (List String)} {loads : List EagerLoad}
      (names : loads.map (·.name) = (heads routes).eraseDups)
      (relation : ∀ load ∈ loads, model.relation? load.name = some load.relation)
      (beneath : ∀ load ∈ loads, ∀ related,
        catalog.model? load.relation.model = some related →
          Grown catalog related (beyond load.name routes) load.children)
      (leaf : ∀ load ∈ loads, catalog.model? load.relation.model = none →
        beyond load.name routes = [] ∧ load.children = []) :
      Grown catalog model routes loads

structure Fits (catalog : Catalog) (model : Model) (routes : List (List String))
    (load : EagerLoad) : Prop where
  relation : model.relation? load.name = some load.relation
  beneath : ∀ related, catalog.model? load.relation.model = some related →
    Grown catalog related (beyond load.name routes) load.children
  leaf : catalog.model? load.relation.model = none →
    beyond load.name routes = [] ∧ load.children = []

theorem grown_iff : Grown catalog model routes loads ↔
    loads.map (·.name) = (heads routes).eraseDups ∧
      ∀ load ∈ loads, Fits catalog model routes load := by
  constructor
  · rintro ⟨hnames, hrelation, hbeneath, hleaf⟩
    exact ⟨hnames, fun load hmem =>
      ⟨hrelation load hmem, hbeneath load hmem, hleaf load hmem⟩⟩
  · rintro ⟨hnames, hfits⟩
    exact ⟨hnames, fun load hmem => (hfits load hmem).relation,
      fun load hmem => (hfits load hmem).beneath, fun load hmem => (hfits load hmem).leaf⟩

theorem Grown.nil (catalog : Catalog) (model : Model) : Grown catalog model [] [] :=
  grown_iff.mpr ⟨rfl, by simp⟩

namespace Grown

theorem map_name (h : Grown catalog model routes loads) :
    loads.map (·.name) = (heads routes).eraseDups :=
  (grown_iff.mp h).1

theorem fits (h : Grown catalog model routes loads) {load : EagerLoad} (hmem : load ∈ loads) :
    Fits catalog model routes load :=
  (grown_iff.mp h).2 load hmem

theorem nodup_names (h : Grown catalog model routes loads) : (loads.map (·.name)).Nodup := by
  rw [h.map_name]
  exact nodup_eraseDups _

theorem mem_names_iff (h : Grown catalog model routes loads) {name : String} :
    name ∈ loads.map (·.name) ↔ name ∈ heads routes := by
  rw [h.map_name, List.mem_eraseDups]

end Grown

/-! ## One more route -/

theorem Fits.of_beyond_eq {load : EagerLoad} (h : Fits catalog model routes load)
    {others : List (List String)} (hsame : beyond load.name others = beyond load.name routes) :
    Fits catalog model others load := by
  refine ⟨h.relation, ?_, ?_⟩
  · rw [hsame]
    exact h.beneath
  · rw [hsame]
    exact h.leaf

theorem mem_put_of_nodup {load other : EagerLoad} (hnodup : (loads.map (·.name)).Nodup)
    (h : other ∈ put load loads) : other = load ∨ other ∈ loads ∧ other.name ≠ load.name := by
  induction loads with
  | nil => exact .inl (List.mem_singleton.mp h)
  | cons first loads ih =>
      rw [List.map_cons, List.nodup_cons, List.mem_map] at hnodup
      unfold put at h
      split at h
      · next hname =>
          refine (List.mem_cons.mp h).imp_right fun hmem => ⟨List.mem_cons_of_mem first hmem, ?_⟩
          rw [← hname]
          exact fun hsame => hnodup.1 ⟨other, hmem, hsame⟩
      · next hname =>
          rcases List.mem_cons.mp h with rfl | hmem
          · exact .inr ⟨List.mem_cons_self, hname⟩
          · exact (ih hnodup.2 hmem).imp_right (And.imp_left (List.mem_cons_of_mem first))

theorem Grown.grown_put (h : Grown catalog model routes loads) (load : EagerLoad)
    {names : List String} (hload : Fits catalog model (routes ++ [load.name :: names]) load) :
    Grown catalog model (routes ++ [load.name :: names]) (put load loads) := by
  rw [grown_iff, heads_concat]
  constructor
  · by_cases hmem : load.name ∈ heads routes
    · rw [map_name_put_of_mem load loads (h.mem_names_iff.mpr hmem), h.map_name,
        eraseDups_concat_of_mem hmem]
    · rw [map_name_put_of_not_mem load loads (mt h.mem_names_iff.mp hmem), h.map_name,
        eraseDups_concat_of_not_mem hmem]
  · intro other hother
    rcases mem_put_of_nodup h.nodup_names hother with rfl | ⟨hmem, hne⟩
    · exact hload
    · exact (h.fits hmem).of_beyond_eq (beyond_concat_of_ne hne routes names)

theorem Grown.exists_find (h : Grown catalog model routes loads) (path : String)
    {name : String} {relation : Relation} (hrelation : model.relation? name = some relation) :
    ∃ load, find path model loads name = .ok load ∧ load.name = name ∧
      load.relation = relation ∧ Fits catalog model routes load := by
  unfold find
  cases hfound : loads.find? (·.name = name) with
  | some load =>
      have hname : load.name = name := by simpa using List.find?_some hfound
      have hfits := h.fits (List.mem_of_find?_eq_some hfound)
      have hsame : some load.relation = some relation := by
        rw [← hfits.relation, hname, hrelation]
      exact ⟨load, rfl, hname, Option.some.inj hsame, hfits⟩
  | none =>
      -- A name that no load has is one that no route starts with.
      have hnew : name ∉ heads routes := by
        rw [← h.mem_names_iff]
        simpa using List.find?_eq_none.mp hfound
      have hbeyond := beyond_eq_nil_of_not_mem hnew
      rw [hrelation]
      refine ⟨⟨name, relation, []⟩, rfl, rfl, rfl, hrelation, ?_, fun _ => ⟨hbeyond, rfl⟩⟩
      intro related _
      rw [hbeyond]
      exact .nil catalog related

theorem Grown.find_eq_error (h : Grown catalog model routes loads) (path : String)
    {name : String} (hrelation : model.relation? name = none) :
    find path model loads name = .error (.undefinedRelation path) := by
  have hnone : loads.find? (·.name = name) = none := by
    rw [List.find?_eq_none]
    intro load hmem hname
    have hfits := (h.fits hmem).relation
    rw [of_decide_eq_true hname, hrelation] at hfits
    cases hfits
  rw [find, hnone, hrelation]

theorem Grown.exists_insert (h : Grown catalog model routes loads) (path : String)
    {segments : List String} (hleads : (relationAt? catalog model segments).isSome) :
    ∃ result, insert catalog path model segments loads = .ok result ∧
      Grown catalog model (routes ++ [segments]) result := by
  -- One segment further, the routes are those beyond the first name, at the related model.
  induction segments generalizing model routes loads with
  | nil => cases hleads
  | cons name rest ih =>
      obtain ⟨last, hlast⟩ := Option.isSome_iff_exists.mp hleads
      cases rest with
      | nil =>
          obtain ⟨load, hfind, rfl, -, hfits⟩ := h.exists_find path hlast
          refine ⟨put load loads, by rw [insert, hfind]; rfl, h.grown_put load ?_⟩
          exact hfits.of_beyond_eq (beyond_concat_last load.name routes)
      | cons segment names =>
          obtain ⟨relation, related, hrelation, htarget, hrest⟩ := exists_of_relationAt? hlast
          obtain ⟨load, hfind, rfl, rfl, hfits⟩ := h.exists_find path hrelation
          obtain ⟨children, hinsert, hgrown⟩ :=
            ih (hfits.beneath related htarget) (Option.isSome_iff_exists.mpr ⟨last, hrest⟩)
          have hextended : Fits catalog model (routes ++ [load.name :: segment :: names])
              { load with children := children } := by
            refine ⟨hrelation, ?_, ?_⟩
            · intro other hother
              cases htarget.symm.trans hother
              rw [beyond_concat_cons]
              exact hgrown
            · intro hnone
              cases htarget.symm.trans hnone
          refine ⟨_, ?_, h.grown_put { load with children := children } hextended⟩
          simp [insert, hfind, htarget, hinsert, bind, Except.bind, pure, Except.pure]

theorem Grown.insert_eq_error (h : Grown catalog model routes loads) {path : String}
    {segments : List String} {error : QueryError}
    (hmistake : Mistake catalog path model segments error) :
    insert catalog path model segments loads = .error error := by
  induction hmistake generalizing routes loads with
  | @relation model name names hrelation =>
      have hfind := h.find_eq_error path hrelation
      cases names <;> rw [insert, hfind] <;> rfl
  | target hrelation htarget =>
      obtain ⟨load, hfind, rfl, rfl, -⟩ := h.exists_find path hrelation
      simp [insert, hfind, htarget, bind, Except.bind]
  | beyond hrelation htarget _ ih =>
      obtain ⟨load, hfind, rfl, rfl, hfits⟩ := h.exists_find path hrelation
      have hinsert := ih (hfits.beneath _ htarget)
      simp [insert, hfind, htarget, hinsert, bind, Except.bind]

/-! ## The same routes -/

theorem Fits.relation_eq {load other : EagerLoad} {others : List (List String)}
    (h : Fits catalog model routes load) (hother : Fits catalog model others other)
    (hname : load.name = other.name) : load.relation = other.relation := by
  have hsame : some load.relation = some other.relation := by
    rw [← h.relation, hname, hother.relation]
  exact Option.some.inj hsame

/-- Loads of one name have the same relation, whatever they have grown from.  Beneath them
stands what has grown from the rest of their routes, or nothing. -/
theorem Fits.matches {alike : List EagerLoad → List EagerLoad → Prop} (hnil : alike [] [])
    {load other : EagerLoad} {others : List (List String)}
    (h : Fits catalog model routes load) (hother : Fits catalog model others other)
    (hname : load.name = other.name)
    (hbeneath : ∀ related, catalog.model? load.relation.model = some related →
      Grown catalog related (beyond load.name others) other.children →
        alike load.children other.children) :
    load.relation = other.relation ∧ alike load.children other.children := by
  have hrelation := h.relation_eq hother hname
  refine ⟨hrelation, ?_⟩
  cases htarget : catalog.model? load.relation.model with
  | none =>
      rw [(h.leaf htarget).2, (hother.leaf (hrelation ▸ htarget)).2]
      exact hnil
  | some related =>
      apply hbeneath related htarget
      rw [hname]
      exact hother.beneath related (hrelation ▸ htarget)

theorem eq_of_map_name {others : List EagerLoad}
    (hnames : loads.map (·.name) = others.map (·.name))
    (hsame : ∀ load ∈ loads, ∀ other ∈ others, load.name = other.name →
      load.relation = other.relation ∧ load.children = other.children) :
    loads = others := by
  induction loads generalizing others with
  | nil => simpa using hnames.symm
  | cons load loads ih =>
      cases others with
      | nil => cases hnames
      | cons other others =>
          obtain ⟨hname, hnames⟩ := List.cons.inj hnames
          obtain ⟨hrelation, hchildren⟩ :=
            hsame load List.mem_cons_self other List.mem_cons_self hname
          have hfirst : load = other := by
            cases load
            cases other
            simp_all
          have hrest := ih hnames fun load hload other hother =>
            hsame load (List.mem_cons_of_mem _ hload) other (List.mem_cons_of_mem _ hother)
          rw [hfirst, hrest]

theorem Grown.eq_of_eraseDups_eq (h : Grown catalog model routes loads)
    {others : List (List String)} {grown : List EagerLoad}
    (hother : Grown catalog model others grown) (hsame : routes.eraseDups = others.eraseDups) :
    loads = grown := by
  -- Both the heads of routes and what is beyond a name are first mentioned in the same order.
  induction h generalizing others grown with
  | intro hnames hrelation hbeneath hleaf ih =>
      have hgrown := Grown.intro hnames hrelation hbeneath hleaf
      apply eq_of_map_name
      · rw [hnames, hother.map_name]
        exact eraseDups_filterMap_congr List.head? hsame
      · intro load hload other hmem hname
        refine (hgrown.fits hload).matches rfl (hother.fits hmem) hname ?_
        intro related htarget hchildren
        exact ih load hload related htarget hchildren
          (eraseDups_filterMap_congr (rest? load.name) hsame)

theorem Grown.insert_again (h : Grown catalog model routes loads) (path : String)
    {segments : List String} (hmem : segments ∈ routes)
    (hleads : (relationAt? catalog model segments).isSome) :
    insert catalog path model segments loads = .ok loads := by
  obtain ⟨result, hinsert, hgrown⟩ := h.exists_insert path hleads
  rw [hinsert, h.eq_of_eraseDups_eq hgrown (eraseDups_concat_of_mem hmem).symm]

/-! ## All routes of a directive -/

def addPath (catalog : Catalog) (model : Model) (loads : List EagerLoad) (path : String) :
    Except QueryError (List EagerLoad) :=
  insert catalog path model (Text.splitOn '.' path) loads

theorem resolve_eq_foldlM (catalog : Catalog) (model : Model) (directive : String) :
    resolve catalog model directive = (paths directive).foldlM (addPath catalog model) [] :=
  rfl

def Leads (catalog : Catalog) (model : Model) (path : String) : Prop :=
  (relationAt? catalog model (Text.splitOn '.' path)).isSome

variable {paths : List String}

theorem leads_or_mistake (catalog : Catalog) (model : Model) (paths : List String) :
    (∀ path ∈ paths, Leads catalog model path) ∨
      ∃ front path back error, paths = front ++ path :: back ∧
        (∀ other ∈ front, Leads catalog model other) ∧
        Mistake catalog path model (Text.splitOn '.' path) error := by
  induction paths with
  | nil => exact .inl (by simp)
  | cons first paths ih =>
      rcases isSome_or_mistake catalog model first (Text.splitOn_ne_nil '.' first) with
        hleads | ⟨error, hmistake⟩
      · rcases ih with hall | ⟨front, path, back, error, rfl, hfront, hmistake⟩
        · exact .inl (List.forall_mem_cons.mpr ⟨hleads, hall⟩)
        · exact .inr ⟨first :: front, path, back, error, rfl,
            List.forall_mem_cons.mpr ⟨hleads, hfront⟩, hmistake⟩
      · exact .inr ⟨[], first, paths, error, rfl, by simp, hmistake⟩

theorem Grown.exists_foldlM (h : Grown catalog model routes loads)
    (hleads : ∀ path ∈ paths, Leads catalog model path) :
    ∃ result, paths.foldlM (addPath catalog model) loads = .ok result ∧
      Grown catalog model (routes ++ paths.map (Text.splitOn '.')) result := by
  -- The routes that the loads have grown from become more with every path.
  induction paths generalizing routes loads with
  | nil => exact ⟨loads, rfl, by simpa using h⟩
  | cons path paths ih =>
      rw [List.forall_mem_cons] at hleads
      obtain ⟨next, hadd, hnext⟩ := h.exists_insert path hleads.1
      obtain ⟨result, hfold, hresult⟩ := ih hnext hleads.2
      refine ⟨result, ?_, by simpa using hresult⟩
      rw [List.foldlM_cons, addPath, hadd]
      exact hfold

theorem foldlM_eq_error {front back : List String} {path : String} {error : QueryError}
    (hfront : ∀ other ∈ front, Leads catalog model other)
    (hmistake : Mistake catalog path model (Text.splitOn '.' path) error) :
    (front ++ path :: back).foldlM (addPath catalog model) [] = .error error := by
  obtain ⟨loads, hfold, hgrown⟩ := (Grown.nil catalog model).exists_foldlM hfront
  have hadd : addPath catalog model loads path = .error error := hgrown.insert_eq_error hmistake
  rw [List.foldlM_append, hfold]
  simp [hadd, bind, Except.bind]

/-- Paths have loads just where all of them lead to relations: those that have grown from
their routes. -/
theorem foldlM_eq_ok_iff : paths.foldlM (addPath catalog model) [] = .ok loads ↔
    (∀ path ∈ paths, Leads catalog model path) ∧
      Grown catalog model (paths.map (Text.splitOn '.')) loads := by
  have hgrows (hleads : ∀ path ∈ paths, Leads catalog model path) :
      ∃ result, paths.foldlM (addPath catalog model) [] = .ok result ∧
        Grown catalog model (paths.map (Text.splitOn '.')) result :=
    (Grown.nil catalog model).exists_foldlM hleads
  constructor
  · intro hfold
    rcases leads_or_mistake catalog model paths with
      hleads | ⟨front, path, back, error, rfl, hfront, hmistake⟩
    · obtain ⟨result, hresult, hgrown⟩ := hgrows hleads
      cases hfold.symm.trans hresult
      exact ⟨hleads, hgrown⟩
    · cases hfold.symm.trans (foldlM_eq_error hfront hmistake)
  · rintro ⟨hleads, hgrown⟩
    obtain ⟨result, hresult, hother⟩ := hgrows hleads
    rw [hresult, hgrown.eq_of_eraseDups_eq hother rfl]

theorem foldlM_eraseDups (catalog : Catalog) (model : Model) (paths : List String) :
    paths.eraseDups.foldlM (addPath catalog model) [] =
      paths.foldlM (addPath catalog model) [] := by
  -- From the end, as a path repeats one that is already among the loads.
  induction paths using List.reverseRecOn with
  | nil => rfl
  | append_singleton paths path ih =>
      by_cases hmem : path ∈ paths
      · rw [eraseDups_concat_of_mem hmem, ih, List.foldlM_append]
        cases hfold : paths.foldlM (addPath catalog model) [] with
        | error error => rfl
        | ok loads =>
            obtain ⟨hleads, hgrown⟩ := foldlM_eq_ok_iff.mp hfold
            have hagain : addPath catalog model loads path = .ok loads :=
              hgrown.insert_again path (List.mem_map_of_mem hmem) (hleads path hmem)
            simp [hagain, bind, Except.bind, pure, Except.pure]
      · rw [eraseDups_concat_of_not_mem hmem, List.foldlM_append, List.foldlM_append, ih]

end EagerLoad

end ListQuery
