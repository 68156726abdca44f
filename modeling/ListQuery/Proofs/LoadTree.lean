import ListQuery.Proofs.Growth

/-!
# The tree of loads

The loads of a directive are the tree of the beginnings of its routes.  Whether there are loads
at all, and what is wrong if there are none, shows on the routes one by one.
-/

namespace ListQuery

namespace EagerLoad

variable {catalog : Catalog} {model : Model} {loads others : List EagerLoad}

/-! ## Nodes of a tree -/

/-- A load stands in a tree at the end of the names that lead to it. -/
inductive Stands : List EagerLoad → List String → EagerLoad → Prop
  | top {loads : List EagerLoad} {load : EagerLoad} (hmem : load ∈ loads) :
      Stands loads [load.name] load
  | beneath {loads : List EagerLoad} {parent load : EagerLoad} {names : List String}
      (hmem : parent ∈ loads) (hstands : Stands parent.children names load) :
      Stands loads (parent.name :: names) load

theorem exists_stands_singleton_iff {name : String} :
    (∃ load, Stands loads [name] load) ↔ name ∈ loads.map (·.name) := by
  rw [List.mem_map]
  constructor
  · rintro ⟨load, _ | ⟨-, hstands⟩⟩
    · exact ⟨load, ‹_›, rfl⟩
    · cases hstands
  · rintro ⟨load, hmem, rfl⟩
    exact ⟨load, .top hmem⟩

theorem exists_stands_cons_iff {name : String} {names : List String} (hne : names ≠ []) :
    (∃ load, Stands loads (name :: names) load) ↔
      ∃ parent ∈ loads, parent.name = name ∧ ∃ load, Stands parent.children names load := by
  constructor
  · rintro ⟨load, _ | ⟨hmem, hstands⟩⟩
    · exact absurd rfl hne
    · exact ⟨_, hmem, rfl, load, hstands⟩
  · rintro ⟨parent, hmem, rfl, load, hstands⟩
    exact ⟨load, .beneath hmem hstands⟩

theorem not_stands_nil {names : List String} {load : EagerLoad} : ¬ Stands [] names load := by
  rintro (hmem | ⟨hmem, -⟩) <;> cases hmem

section Routes

variable {routes : List (List String)}

/-- Siblings have different names, which stand in the order in which routes mention them after
a beginning. -/
def AreSiblings (routes : List (List String)) (names : List String) (loads : List EagerLoad) :
    Prop :=
  (loads.map (·.name)).Nodup ∧ loads.map (·.name) = (mentioned routes names).eraseDups

theorem areSiblings_iff {names : List String} : AreSiblings routes names loads ↔
    loads.map (·.name) = (mentioned routes names).eraseDups := by
  refine and_iff_right_of_imp ?_
  intro hnames
  rw [hnames]
  exact nodup_eraseDups _

/-- The tree of the beginnings of routes, each node with the relation that its route leads
to. -/
structure IsPrefixTree (catalog : Catalog) (model : Model) (routes : List (List String))
    (loads : List EagerLoad) : Prop where
  stands_iff : ∀ names, (∃ load, Stands loads names load) ↔
    names ≠ [] ∧ ∃ route ∈ routes, names <+: route
  relation : ∀ names load, Stands loads names load →
    relationAt? catalog model names = some load.relation
  top : AreSiblings routes [] loads
  beneath : ∀ names load, Stands loads names load → AreSiblings routes names load.children

theorem Fits.exists_grown {parent load : EagerLoad} {names : List String}
    (h : Fits catalog model routes parent) (hstands : Stands parent.children names load) :
    ∃ related, catalog.model? parent.relation.model = some related ∧
      Grown catalog related (beyond parent.name routes) parent.children := by
  cases htarget : catalog.model? parent.relation.model with
  | none =>
      rw [(h.leaf htarget).2] at hstands
      exact absurd hstands not_stands_nil
  | some related => exact ⟨related, rfl, h.beneath related htarget⟩

namespace Grown

theorem relationAt?_eq (h : Grown catalog model routes loads) {names : List String}
    {load : EagerLoad} (hstands : Stands loads names load) :
    relationAt? catalog model names = some load.relation := by
  induction hstands generalizing model routes with
  | top hmem => exact (h.fits hmem).relation
  | @beneath loads parent load names hmem hstands ih =>
      obtain ⟨related, htarget, hgrown⟩ := (h.fits hmem).exists_grown hstands
      have hrest := ih hgrown
      cases names with
      | nil => cases hrest
      | cons segment names => rw [relationAt?_cons_cons (h.fits hmem).relation htarget, hrest]

theorem areSiblings_children (h : Grown catalog model routes loads) {names : List String}
    {load : EagerLoad} (hstands : Stands loads names load) :
    AreSiblings routes names load.children := by
  rw [areSiblings_iff]
  induction hstands generalizing model routes with
  | @top loads load hmem =>
      have hfits := h.fits hmem
      rw [mentioned_cons, mentioned_nil]
      cases htarget : catalog.model? load.relation.model with
      | none =>
          obtain ⟨hbeyond, hchildren⟩ := hfits.leaf htarget
          rw [hbeyond, hchildren]
          rfl
      | some related => exact (hfits.beneath related htarget).map_name
  | @beneath loads parent load names hmem hstands ih =>
      obtain ⟨related, -, hgrown⟩ := (h.fits hmem).exists_grown hstands
      rw [mentioned_cons]
      exact ih hgrown

theorem exists_stands_iff (h : Grown catalog model routes loads) (names : List String) :
    (∃ load, Stands loads names load) ↔ names ≠ [] ∧ ∃ route ∈ routes, names <+: route := by
  induction names generalizing model routes loads with
  | nil =>
      simp only [ne_eq, not_true_eq_false, false_and, iff_false]
      rintro ⟨load, ⟨⟩⟩
  | cons name names ih =>
      rw [and_iff_right (List.cons_ne_nil name names)]
      rcases eq_or_ne names [] with rfl | hne
      · rw [exists_stands_singleton_iff, h.mem_names_iff, mem_heads_iff]
        simp [List.IsPrefix]
      · -- Further names stand beneath the first one, and they begin what is beyond it.
        rw [exists_stands_cons_iff hne, ← exists_mem_beyond_iff hne]
        constructor
        · rintro ⟨parent, hmem, rfl, load, hstands⟩
          obtain ⟨related, -, hgrown⟩ := (h.fits hmem).exists_grown hstands
          exact ((ih hgrown).mp ⟨load, hstands⟩).2
        · rintro ⟨rest, hrest, hbegins⟩
          have hname : name ∈ loads.map (·.name) :=
            h.mem_names_iff.mpr (mem_heads_iff.mpr ⟨rest, (mem_beyond_iff.mp hrest).2⟩)
          obtain ⟨parent, hmem, rfl⟩ := List.mem_map.mp hname
          have hfits := h.fits hmem
          cases htarget : catalog.model? parent.relation.model with
          | none =>
              rw [(hfits.leaf htarget).1] at hrest
              cases hrest
          | some related =>
              have hgrown := hfits.beneath related htarget
              exact ⟨parent, hmem, rfl, (ih hgrown).mpr ⟨hne, rest, hrest, hbegins⟩⟩

theorem isPrefixTree (h : Grown catalog model routes loads) :
    IsPrefixTree catalog model routes loads where
  stands_iff := h.exists_stands_iff
  relation _ _ hstands := h.relationAt?_eq hstands
  top := by rw [areSiblings_iff, h.map_name, mentioned_nil]
  beneath _ _ hstands := h.areSiblings_children hstands

end Grown

end Routes

/-! ## Trees up to the order of siblings -/

/-- Loads that differ in the order of siblings only, at any level. -/
inductive Rearranged : List EagerLoad → List EagerLoad → Prop
  | refl (loads : List EagerLoad) : Rearranged loads loads
  | cons {load other : EagerLoad} {loads others : List EagerLoad}
      (hname : load.name = other.name) (hrelation : load.relation = other.relation)
      (hchildren : Rearranged load.children other.children) (hloads : Rearranged loads others) :
      Rearranged (load :: loads) (other :: others)
  | swap (first second : EagerLoad) (loads : List EagerLoad) :
      Rearranged (second :: first :: loads) (first :: second :: loads)
  | trans {loads between others : List EagerLoad} (hfirst : Rearranged loads between)
      (hsecond : Rearranged between others) : Rearranged loads others

theorem Rearranged.of_perm (h : loads.Perm others) : Rearranged loads others := by
  induction h with
  | nil => exact .refl []
  | cons load _ ih => exact .cons rfl rfl (.refl load.children) ih
  | swap first second loads => exact .swap first second loads
  | trans _ _ hfirst hsecond => exact .trans hfirst hsecond

theorem Rearranged.of_map_name (hnames : (loads.map (·.name)).Perm (others.map (·.name)))
    (hsame : ∀ load ∈ loads, ∀ other ∈ others, load.name = other.name →
      load.relation = other.relation ∧ Rearranged load.children other.children) :
    Rearranged loads others := by
  induction loads generalizing others with
  | nil =>
      rw [List.map_nil, List.nil_perm, List.map_eq_nil_iff] at hnames
      rw [hnames]
      exact .refl []
  | cons load loads ih =>
      -- The load of this name is brought to the front of the others.
      have hfirst : load.name ∈ others.map (·.name) := hnames.subset List.mem_cons_self
      obtain ⟨other, hmem, hname⟩ := List.mem_map.mp hfirst
      obtain ⟨front, back, rfl⟩ := List.append_of_mem hmem
      have hmiddle : (front ++ other :: back).Perm (other :: (front ++ back)) := List.perm_middle
      have hrest : (loads.map (·.name)).Perm ((front ++ back).map (·.name)) := by
        have hall := hnames.trans (hmiddle.map EagerLoad.name)
        rw [List.map_cons, List.map_cons, hname] at hall
        exact hall.cons_inv
      obtain ⟨hrelation, hchildren⟩ := hsame load List.mem_cons_self other hmem hname.symm
      have hloads : Rearranged loads (front ++ back) := ih hrest fun next hnext found hfound =>
        hsame next (List.mem_cons_of_mem load hnext) found
          (hmiddle.symm.subset (List.mem_cons_of_mem other hfound))
      exact .trans (.cons hname.symm hrelation hchildren hloads) (.of_perm hmiddle.symm)

theorem Grown.rearranged {routes rearranged : List (List String)}
    (h : Grown catalog model routes loads) (hother : Grown catalog model rearranged others)
    (hperm : routes.Perm rearranged) : Rearranged loads others := by
  induction h generalizing rearranged others with
  | intro hnames hrelation hbeneath hleaf ih =>
      have hgrown := Grown.intro hnames hrelation hbeneath hleaf
      apply Rearranged.of_map_name
      · rw [hnames, hother.map_name]
        exact perm_eraseDups (hperm.filterMap List.head?)
      · intro load hload other hmem hname
        refine (hgrown.fits hload).matches (.refl []) (hother.fits hmem) hname ?_
        intro related htarget hchildren
        exact ih load hload related htarget hchildren (hperm.filterMap (rest? load.name))

/-! ## The loads of a directive -/

theorem resolve_eq_ok_iff {directive : String} : resolve catalog model directive = .ok loads ↔
    (∀ path ∈ paths directive, Leads catalog model path) ∧
      Grown catalog model (routes directive) loads :=
  foldlM_eq_ok_iff

theorem exists_resolve_iff {directive : String} :
    (∃ loads, resolve catalog model directive = .ok loads) ↔
      ∀ path ∈ paths directive, Leads catalog model path := by
  constructor
  · rintro ⟨loads, hloads⟩
    exact (resolve_eq_ok_iff.mp hloads).1
  · intro hleads
    obtain ⟨loads, hfold, -⟩ := (Grown.nil catalog model).exists_foldlM hleads
    exact ⟨loads, hfold⟩

theorem resolve_eq_error_iff {directive : String} {error : QueryError} :
    resolve catalog model directive = .error error ↔
      ∃ front path back, paths directive = front ++ path :: back ∧
        (∀ other ∈ front, Leads catalog model other) ∧
        Mistake catalog path model (Text.splitOn '.' path) error := by
  constructor
  · intro herror
    rcases leads_or_mistake catalog model (paths directive) with
      hleads | ⟨front, path, back, found, hpaths, hfront, hmistake⟩
    · obtain ⟨loads, hloads⟩ := exists_resolve_iff.mpr hleads
      cases herror.symm.trans hloads
    · have hfound : resolve catalog model directive = .error found := by
        rw [resolve_eq_foldlM, hpaths, foldlM_eq_error hfront hmistake]
      cases herror.symm.trans hfound
      exact ⟨front, path, back, hpaths, hfront, hmistake⟩
  · rintro ⟨front, path, back, hpaths, hfront, hmistake⟩
    rw [resolve_eq_foldlM, hpaths, foldlM_eq_error hfront hmistake]

theorem resolve_congr {directive other : String}
    (h : (paths other).eraseDups = (paths directive).eraseDups) :
    resolve catalog model other = resolve catalog model directive := by
  rw [resolve_eq_foldlM, resolve_eq_foldlM, ← foldlM_eraseDups, h, foldlM_eraseDups]

theorem paths_append_self (directive : String) :
    paths (directive ++ "," ++ directive) = paths directive ++ paths directive := by
  have hpieces := Text.splitOn_append ',' directive directive
  rw [paths, paths, ← List.filter_append, ← List.map_append, ← hpieces]
  rfl

/-- The loads of a directive are the tree of the beginnings of its paths, if every path leads
to a relation; otherwise the first one that does not tells what is wrong.  Repeated paths
change nothing, and the order of paths is the order of siblings and nothing more. -/
theorem resolve_is_prefixTree (catalog : Catalog) (model : Model) (directive : String) :
    ((∃ loads, resolve catalog model directive = .ok loads) ↔
      ∀ path ∈ paths directive,
        (relationAt? catalog model (Text.splitOn '.' path)).isSome) ∧
    (∀ error, resolve catalog model directive = .error error ↔
      ∃ front path back, paths directive = front ++ path :: back ∧
        (∀ other ∈ front, (relationAt? catalog model (Text.splitOn '.' other)).isSome) ∧
        Mistake catalog path model (Text.splitOn '.' path) error) ∧
    (∀ loads, resolve catalog model directive = .ok loads →
      IsPrefixTree catalog model (routes directive) loads ∧
        ∀ other, (paths other).Perm (paths directive) →
          ∃ others, resolve catalog model other = .ok others ∧ Rearranged loads others) ∧
    (∀ other, (paths other).eraseDups = (paths directive).eraseDups →
      resolve catalog model other = resolve catalog model directive) ∧
    resolve catalog model (directive ++ "," ++ directive) =
      resolve catalog model directive := by
  refine ⟨exists_resolve_iff, fun error => resolve_eq_error_iff, ?_, fun other => resolve_congr, ?_⟩
  · intro loads hloads
    obtain ⟨hleads, hgrown⟩ := resolve_eq_ok_iff.mp hloads
    refine ⟨hgrown.isPrefixTree, ?_⟩
    intro other hperm
    obtain ⟨others, hothers⟩ := exists_resolve_iff.mpr fun path hpath =>
      hleads path (hperm.subset hpath)
    obtain ⟨-, hrearranged⟩ := resolve_eq_ok_iff.mp hothers
    exact ⟨others, hothers, hgrown.rearranged hrearranged (hperm.symm.map _)⟩
  · apply resolve_congr
    rw [paths_append_self, eraseDups_append_self]

example :
    let author : Relation := ⟨"author", .one, "User", "id", "user_id"⟩
    let posts : Relation := ⟨"posts", .many, "Post", "user_id", "id"⟩
    let user : Model := ⟨"User", "users", ["id"], [posts], [], none⟩
    let post : Model := ⟨"Post", "posts", ["id", "user_id"], [author], [], none⟩
    resolve (Registry.ofList [user, post]).catalog post "author.posts.author, author" =
      .ok [⟨"author", author, [⟨"posts", posts, [⟨"author", author, []⟩]⟩]⟩] := by
  cbv

end EagerLoad

end ListQuery
