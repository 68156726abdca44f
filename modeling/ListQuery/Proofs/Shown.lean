import Mathlib.Data.List.Perm.Basic
import ListQuery.Proofs.Joins
import ListQuery.Service.Fetch

/-!
# Shown rows

A row is shown without the fields that the model of the request hides.  What the owner of a
column hides plays no part in it, so a column of another table is shown by a model that does
not hide its name as well.
-/

namespace ListQuery

/-! ## Erased fields -/

namespace Json

section

variable {α : Type} {fields : List (String × α)}

theorem eraseField_cases (key : String) (fields : List (String × α)) :
    (key ∉ fields.map (·.1) ∧ eraseField key fields = fields) ∨
    ∃ front found back, fields = front ++ found :: back ∧ found.1 = key ∧
      key ∉ front.map (·.1) ∧ (eraseField key fields).Perm (front ++ back) := by
  have hdiffers {part : List (String × α)} (h : ∀ field ∈ part, (field.1 != key) = true) :
      key ∉ part.map (·.1) := by
    intro hmem
    obtain ⟨field, hfield, hkey⟩ := List.mem_map.mp hmem
    simpa [hkey] using h field hfield
  unfold eraseField
  cases hdrop : fields.dropWhile (·.1 != key) with
  | nil => exact .inl ⟨hdiffers (List.dropWhile_eq_nil_iff.mp hdrop), rfl⟩
  | cons found back =>
      let front := fields.takeWhile (·.1 != key)
      have hparts : front ++ found :: back = fields := by
        rw [← hdrop]
        exact List.takeWhile_append_dropWhile
      have hfound : found.1 = key := by
        have hhead := List.head?_dropWhile_not (·.1 != key) fields
        rw [hdrop] at hhead
        simpa using hhead
      have hfront : key ∉ front.map (·.1) :=
        hdiffers (List.all_eq_true.mp List.all_takeWhile)
      refine .inr ⟨front, found, back, hparts.symm, hfound, hfront, ?_⟩
      -- The last field takes the place of the one that was found.
      simp only
      cases hlast : back.getLast? with
      | none =>
          have hnil : back = [] := List.getLast?_eq_none_iff.mp hlast
          rw [hnil, List.append_nil]
      | some last =>
          obtain ⟨init, rfl⟩ := List.getLast?_eq_some_iff.mp hlast
          simp only [List.dropLast_concat]
          exact (List.perm_append_singleton last init).symm.append_left front

theorem perm_eraseField (key : String) (h : (fields.map (·.1)).Nodup) :
    (eraseField key fields).Perm (fields.filter (·.1 ≠ key)) := by
  have hkept {part : List (String × α)} (hkey : key ∉ part.map (·.1)) :
      part.filter (·.1 ≠ key) = part := by
    rw [List.filter_eq_self]
    intro field hmem
    have hne : field.1 ≠ key := ne_of_mem_of_not_mem (List.mem_map_of_mem hmem) hkey
    simpa using hne
  rcases eraseField_cases key fields with
    ⟨hkey, hsame⟩ | ⟨front, found, back, rfl, rfl, hfront, hperm⟩
  · rw [hsame, hkept hkey]
  · have hback : found.1 ∉ back.map (·.1) := by
      rw [List.map_append, List.map_cons] at h
      exact (List.nodup_cons.mp h.of_append_right).1
    rw [List.filter_append, List.filter_cons_of_neg (by simp), hkept hfront, hkept hback]
    exact hperm

theorem perm_eraseFields (keys : List String) (h : (fields.map (·.1)).Nodup) :
    (eraseFields keys fields).Perm (fields.filter (·.1 ∉ keys)) := by
  induction keys generalizing fields with
  | nil => simp [eraseFields]
  | cons key keys ih =>
      have hperm := perm_eraseField key h
      have hnodup : ((eraseField key fields).map (·.1)).Nodup := by
        rw [(hperm.map _).nodup_iff]
        exact h.sublist (List.filter_sublist.map _)
      calc
        (eraseFields (key :: keys) fields).Perm
            ((eraseField key fields).filter (·.1 ∉ keys)) := ih hnodup
        _ |>.Perm ((fields.filter (·.1 ≠ key)).filter (·.1 ∉ keys)) := hperm.filter _
        _ = fields.filter (·.1 ∉ key :: keys) := by
          rw [List.filter_filter]
          congr 1
          funext field
          simp [Bool.and_comm]

end

def keys : Json → List String
  | .object fields => fields.map (·.1)
  | _ => []

end Json

/-! ## Rows -/

/-- The name under which rows have a column, which is what follows its table. -/
def Projection.name? : Projection → Option String
  | .allOf _ => none
  | .column path => (Text.cutAt? '.' path).map (·.2)

namespace Row

def IsOf (columns : List Projection) (row : Row) : Prop :=
  (row.map (·.1)).Nodup ∧
    ∀ name, name ∈ row.map (·.1) ↔ name ∈ columns.filterMap Projection.name?

theorem perm_insert (name : String) (value : Json) (row : Row) :
    (insert name value row).Perm ((name, value) :: row) := by
  induction row with
  | nil => rfl
  | cons column columns ih =>
      unfold insert
      split
      · rfl
      · exact (ih.cons column).trans (.swap (name, value) column columns)

theorem perm_ordered (row : Row) : row.ordered.Perm row := by
  have hfold (sorted : Row) :
      (row.foldl (fun columns column => insert column.1 column.2 columns) sorted).Perm
        (row ++ sorted) := by
    induction row generalizing sorted with
    | nil => rfl
    | cons column columns ih =>
        have hinsert := perm_insert column.1 column.2 sorted
        exact (ih _).trans ((hinsert.append_left columns).trans List.perm_middle)
  have hperm := hfold []
  rwa [List.append_nil] at hperm

end Row

namespace Model

variable {model : Model}

def serialized (model : Model) (row : Json) : Json := model.serializer.elim row (· row)

theorem present_of_object {row : Json} {fields : List (String × Json)}
    (h : model.serialized row = .object fields) :
    model.present row = .object (Json.eraseFields model.hidden fields) := by
  rw [serialized] at h
  rw [present, h]

theorem present_of_not_object {row : Json}
    (h : ∀ fields, model.serialized row ≠ .object fields) :
    model.present row = model.serialized row := by
  rw [serialized] at *
  unfold present
  split
  · next fields hobject => exact absurd hobject (h fields)
  · rfl

/-- An object is shown with the fields of its serialization that are not hidden, each of them
once and with its value; what is serialized as no object is shown as it is. -/
theorem present_takes_out_hidden (model : Model) (row : Json) :
    (∀ fields, model.serialized row = .object fields → (fields.map (·.1)).Nodup →
      ∃ shown, model.present row = .object shown ∧
        shown.Perm (fields.filter (·.1 ∉ model.hidden)) ∧ (shown.map (·.1)).Nodup) ∧
    ((∀ fields, model.serialized row ≠ .object fields) →
      model.present row = model.serialized row) := by
  refine ⟨fun fields hobject hnodup => ?_, present_of_not_object⟩
  have hperm := Json.perm_eraseFields model.hidden hnodup
  refine ⟨_, present_of_object hobject, hperm, ?_⟩
  rw [(hperm.map _).nodup_iff]
  exact hnodup.sublist (List.filter_sublist.map _)

theorem present_takes_out_moved_token :
    let addToken : Json → Json
      | .object fields => .object (fields ++ [("token", .text "t")])
      | other => other
    let model : Model :=
      { Sample.user with
        hidden := ["password", "token", "ghost", "password"], serializer := some addToken }
    let row : Json := .object [("password", .text "p"), ("id", .text "7")]
    model.serialized row =
        .object [("password", .text "p"), ("id", .text "7"), ("token", .text "t")] ∧
      model.present row = .object [("id", .text "7")] ∧
      model.serialized .null = .null ∧ model.present .null = .null := by
  intro addToken model row
  have hrow : model.serialized row =
      .object [("password", .text "p"), ("id", .text "7"), ("token", .text "t")] := rfl
  have hnull : model.serialized .null = .null := rfl
  obtain ⟨shown, hshown, hperm, -⟩ := (present_takes_out_hidden model row).1 _ hrow (by decide)
  have hkept : shown = [("id", .text "7")] := List.perm_singleton.mp hperm
  have hother := (present_takes_out_hidden model .null).2 fun fields => by simp [hnull]
  exact ⟨hrow, hkept ▸ hshown, hnull, hother.trans hnull⟩

def shown (model : Model) (row : Row) : Json := model.present (.object row.ordered)

theorem mem_keys_shown (hserializer : model.serializer = none) {row : Row}
    (hnodup : (row.map (·.1)).Nodup) {name : String} :
    name ∈ (model.shown row).keys ↔ name ∈ row.map (·.1) ∧ name ∉ model.hidden := by
  have hserialized : model.serialized (.object row.ordered) = .object row.ordered := by
    rw [serialized, hserializer]
    rfl
  have hshown : model.shown row = .object (Json.eraseFields model.hidden row.ordered) :=
    present_of_object hserialized
  have hordered := Row.perm_ordered row
  have hperm := Json.perm_eraseFields model.hidden
    ((hordered.map (·.1)).nodup_iff.mpr hnodup)
  have hkeys : name ∈ (model.shown row).keys ↔
      name ∈ (row.filter (·.1 ∉ model.hidden)).map (·.1) := by
    rw [hshown]
    exact ((hperm.trans (hordered.filter _)).map (·.1)).mem_iff
  rw [hkeys]
  simp only [List.mem_map, List.mem_filter, decide_eq_true_eq]
  constructor
  · rintro ⟨column, ⟨hmem, hhidden⟩, rfl⟩
    exact ⟨⟨column, hmem, rfl⟩, hhidden⟩
  · rintro ⟨⟨column, hmem, rfl⟩, hhidden⟩
    exact ⟨column, ⟨hmem, hhidden⟩, rfl⟩

end Model

/-! ## Fetched rows -/

section Fetched

variable {connection : Connection} {model : Model} {draft : Draft} {query : Query}
  {rows counts : List Row} {replies : List Reply}

theorem fetchAll_of_rows (h : connection.replies = .rows rows :: replies) :
    (fetchAll connection model draft).1 = .ok (rows.map model.shown) := by
  simp only [fetchAll, Connection.ask, h, List.map_map]
  rfl

theorem snd_fetchTotal (connection : Connection) (draft : Draft) :
    (fetchTotal connection draft).2 = (connection.ask draft.count).2 := by
  unfold fetchTotal
  split <;> simp_all

theorem fetchPage_of_error {error : ApiError}
    (h : (fetchTotal connection draft).1 = .error error) :
    fetchPage connection model draft query =
      (.error error, (connection.ask draft.count).2) := by
  have hcount : fetchTotal connection draft = (.error error, (connection.ask draft.count).2) :=
    Prod.ext h (snd_fetchTotal connection draft)
  simp only [fetchPage, hcount]

theorem fetchPage_of_total {total : Nat} (h : (fetchTotal connection draft).1 = .ok total) :
    let fetched := fetchAll (connection.ask draft.count).2 model draft
    fetchPage connection model draft query =
      (fetched.1.map (.of · total query.perPage query.page), fetched.2) := by
  intro fetched
  have hcount : fetchTotal connection draft = (.ok total, (connection.ask draft.count).2) :=
    Prod.ext h (snd_fetchTotal connection draft)
  simp only [fetchPage, hcount, fetched]
  rcases fetchAll (connection.ask draft.count).2 model draft with ⟨rows | error, after⟩ <;> rfl

theorem rows_of_fetchPage {page : Page Json}
    (hreplies : connection.replies = .rows counts :: .rows rows :: replies)
    (hpage : (fetchPage connection model draft query).1 = .ok page) :
    page.rows = rows.map model.shown := by
  have hrows : (connection.ask draft.count).2.replies = .rows rows :: replies := by
    simp only [Connection.ask, hreplies]
  cases htotal : (fetchTotal connection draft).1 with
  | error error =>
      rw [fetchPage_of_error htotal] at hpage
      cases hpage
  | ok total =>
      rw [fetchPage_of_total htotal, fetchAll_of_rows hrows] at hpage
      cases hpage
      rfl

end Fetched

/-! ## Shown columns -/

theorem Request.exists_name_of_mem_columns {catalog : Catalog} {request : Request}
    {prepared : Prepared} (h : request.prepare catalog = .ok prepared)
    (hfields : prepared.query.selectsAll = false) :
    ∀ projection ∈ prepared.draft.columns, ∃ name, projection.name? = some name := by
  have hnamed {path : String} (hdot : '.' ∈ path.toList) :
      ∃ name, (Projection.column path).name? = some name := by
    cases hcut : Text.cutAt? '.' path with
    | none => exact absurd hdot (Text.cutAt?_eq_none_iff.mp hcut)
    | some parts => exact ⟨parts.2, by simp [Projection.name?, hcut]⟩
  obtain ⟨-, hparse, -⟩ := prepare_eq_ok_iff.mp h
  obtain ⟨-, -, -, -, hrelations, -⟩ := Query.parse_eq_ok hparse
  intro projection hprojection
  rw [columns_of_prepare h, Assembly.projectionAction, hfields] at hprojection
  obtain ⟨path, hpath, rfl⟩ := List.mem_map.mp hprojection
  refine hnamed ?_
  rcases List.mem_append.mp hpath with hmapped | hrelation
  · obtain ⟨field, -, rfl⟩ := List.mem_map.mp hmapped
    unfold Assembly.path
    split
    · assumption
    · simp [Model.qualify]
  · rw [hrelations] at hrelation
    obtain ⟨load, -, rfl⟩ := EagerLoad.exists_of_mem_columns hrelation
    simp [Model.qualify]

/-- A column that is listed is shown just where the model of the request does not hide its
name, whatever the model of the column's table hides. -/
theorem Request.shows_iff_not_hidden {catalog : Catalog} {request : Request}
    {prepared : Prepared} (h : request.prepare catalog = .ok prepared)
    (hfields : prepared.query.selectsAll = false)
    (hserializer : prepared.model.serializer = none) {rows : List Row}
    (hrows : ∀ row ∈ rows, row.IsOf prepared.draft.columns) (connection : Connection) :
    (∀ replies, connection.replies = .rows rows :: replies →
      (fetchAll connection prepared.model prepared.draft).1 =
        .ok (rows.map prepared.model.shown)) ∧
    (∀ counts replies page, connection.replies = .rows counts :: .rows rows :: replies →
      (fetchPage connection prepared.model prepared.draft prepared.query).1 = .ok page →
        page.rows = rows.map prepared.model.shown) ∧
    ∀ row ∈ rows, ∀ projection ∈ prepared.draft.columns, ∃ name,
      projection.name? = some name ∧
        (name ∈ (prepared.model.shown row).keys ↔ name ∉ prepared.model.hidden) := by
  refine ⟨fun _ => fetchAll_of_rows, fun _ _ _ => rows_of_fetchPage, ?_⟩
  intro row hrow projection hprojection
  obtain ⟨hnodup, hnames⟩ := hrows row hrow
  obtain ⟨name, hname⟩ := exists_name_of_mem_columns h hfields projection hprojection
  have hmem : name ∈ row.map (·.1) :=
    (hnames name).mpr (List.mem_filterMap.mpr ⟨projection, hprojection, hname⟩)
  refine ⟨name, hname, ?_⟩
  rw [Model.mem_keys_shown hserializer hnodup]
  exact and_iff_right hmem

theorem Request.shows_of_rawListing :
    let request : Request := ⟨"User", Sample.rawListing, none, true⟩
    let prepared := request.assemble Sample.user Sample.listing
    let row : Row := [("id", .text "7"), ("age", .text "36"), ("profile_id", .text "2")]
    request.prepare Sample.registry.catalog = .ok prepared ∧
      prepared.query.selectsAll = false ∧ prepared.model.serializer = none ∧
      row.IsOf prepared.draft.columns ∧
      (fetchAll ⟨.sqlite, [.rows [row]], []⟩ prepared.model prepared.draft).1 =
        .ok [prepared.model.shown row] ∧
      "id" ∉ (prepared.model.shown row).keys ∧ "age" ∈ (prepared.model.shown row).keys := by
  intro request prepared row
  have hprepare : request.prepare Sample.registry.catalog = .ok prepared :=
    prepare_eq_ok_iff.mpr ⟨rfl, Sample.parse_rawListing, rfl⟩
  have hnodup : (row.map (·.1)).Nodup := by decide
  have hrow : row.IsOf prepared.draft.columns := ⟨hnodup, fun _ => Iff.rfl⟩
  have hrows : ∀ other ∈ [row], other.IsOf prepared.draft.columns := by simpa using hrow
  obtain ⟨hall, -, hshown⟩ := shows_iff_not_hidden hprepare rfl rfl hrows
    ⟨.sqlite, [.rows [row]], []⟩
  have hcolumn := hshown row (List.mem_singleton_self row)
  obtain ⟨_, ⟨⟩, hid⟩ := hcolumn (.column "users.id") (by decide)
  obtain ⟨_, ⟨⟩, hage⟩ := hcolumn (.column "users.age") (by decide)
  exact ⟨hprepare, rfl, rfl, hrow, hall [] rfl, hid.not.mpr (by decide), hage.mpr (by decide)⟩

theorem Request.shows_hidden_column :
    ∃ prepared,
      (Request.filteredBy "Comment" (some "editor_id,users.id") "\x7b\"author.age\":36\x7d").prepare
          Sample.discussion.catalog = .ok prepared ∧
        prepared.query.selectsAll = false ∧ prepared.model.serializer = none ∧
        .column "users.id" ∈ prepared.draft.columns ∧
        Sample.discussion.catalog.modelOfTable? "users" = some Sample.user ∧
        "id" ∈ Sample.user.hidden ∧
        let row : Row := [("editor_id", .text "3"), ("id", .text "7")]
        row.IsOf prepared.draft.columns ∧
          (fetchAll ⟨.sqlite, [.rows [row]], []⟩ prepared.model prepared.draft).1 =
            .ok [.object row] := by
  let payload := "\x7b\"author.age\":36\x7d"
  let condition : Condition := .group
    [.predicate ⟨none, "User", "users", "age", .compare .equal (.int 36), some Sample.author⟩]
  have hstrip : Condition.stripPayload payload = "\x7b\"author.age\":36\x7d" := by
    decide +kernel
  have hdocument : Condition.document? (some payload) = some (.object
      [("author.age", .number (.integer 36))]) := by
    rw [Condition.document?, Option.getD_some, hstrip]
    rfl
  have hcompile : Condition.compile Sample.discussion.catalog Sample.comment (some payload) =
      ⟨.ok condition, ["users.age"]⟩ := by
    rw [Condition.compile_eq, hdocument]
    rfl
  have hfields : parseFields (some "editor_id,users.id") = .ok ["editor_id", "users.id"] := by
    rfl
  have hexist : ∀ column ∈ ["editor_id", "users.id", "users.age"],
      columnExists Sample.discussion.catalog Sample.comment column = true := by
    decide +kernel
  have hmodel : Sample.discussion.catalog.model? "Comment" = some Sample.comment := by rfl
  let request := filteredBy "Comment" (some "editor_id,users.id") payload
  let prepared := request.assemble Sample.comment (.filtered ["editor_id", "users.id"] condition)
  have hprepare : request.prepare Sample.discussion.catalog = .ok prepared :=
    prepare_filteredBy hmodel hfields hcompile hexist
  have hcolumns : prepared.draft.columns =
      [.column "comments.editor_id", .column "users.id"] := by
    rfl
  have hlisted : .column "users.id" ∈ prepared.draft.columns := by
    rw [hcolumns]
    decide
  have hnames (name : String) : name ∈ ["editor_id", "id"] ↔
      name ∈ prepared.draft.columns.filterMap Projection.name? := by
    rw [hcolumns]
    exact Iff.rfl
  exact ⟨prepared, hprepare, rfl, rfl, hlisted, rfl, by decide, ⟨by decide, hnames⟩, rfl⟩

end ListQuery
