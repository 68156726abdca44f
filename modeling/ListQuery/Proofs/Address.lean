import ListQuery.Proofs.Reading
import ListQuery.Proofs.Rejection

/-!
# Sorting by way of an address

In an address a plus stands for a space, and no column path has a space.  An entry of the sort
parameter that is written with a plus in front of its column is therefore rejected, and every
other entry is read as it is written; where the plus itself is meant, an address has to escape
it.
-/

namespace ListQuery

/-! ## Forms -/

namespace Text

theorem Utf8.decode_map_toNat {chars : List Char} (h : ∀ char ∈ chars, char.toNat < 0x80) :
    decode (chars.map Char.toNat) = String.ofList chars := by
  have hsteps : ∀ decoded : List Char,
      (chars.map Char.toNat).foldl Decoder.step ⟨decoded, none⟩ =
        ⟨chars.reverse ++ decoded, none⟩ := by
    induction chars with
    | nil => exact fun _ => rfl
    | cons char chars ih =>
        intro decoded
        have hchar : char.toNat < 0x80 := h char List.mem_cons_self
        have hstep : Decoder.step ⟨decoded, none⟩ char.toNat = ⟨char :: decoded, none⟩ := by
          simp [Decoder.step, Decoder.lead, hchar]
        rw [List.map_cons, List.foldl_cons, hstep,
          ih (fun other hother => h other (List.mem_cons_of_mem char hother))]
        simp
  rw [decode, hsteps []]
  simp [Decoder.finish]

theorem forall_mem_intercalate {holds : Char → Prop} {separator : Char}
    {parts : List (List Char)} (hseparator : holds separator)
    (hparts : ∀ part ∈ parts, ∀ char ∈ part, holds char) :
    ∀ char ∈ [separator].intercalate parts, holds char := by
  induction parts with
  | nil => exact fun _ hmem => absurd hmem List.not_mem_nil
  | cons part parts ih =>
      obtain ⟨hpart, hrest⟩ := List.forall_mem_cons.mp hparts
      cases parts with
      | nil => rwa [List.intercalate_singleton]
      | cons next parts =>
          intro char hmem
          rw [List.intercalate_cons_cons, List.mem_append, List.mem_append,
            List.mem_singleton] at hmem
          rcases hmem with (hmem | rfl) | hmem
          · exact hpart char hmem
          · exact hseparator
          · exact ih hrest char hmem

namespace Form

structure IsPlain (char : Char) : Prop where
  toNat_lt : char.toNat < 0x80
  ne_percent : char ≠ '%'
  ne_plus : char ≠ '+'

theorem octets_cons_of_isPlain {char : Char} (h : IsPlain char) (rest : List Char) :
    octets (char :: rest) = char.toNat :: octets rest := by
  have hencoded : String.utf8EncodeChar char = [UInt8.ofNat char.toNat] :=
    if_pos (Nat.le_of_lt_succ h.toNat_lt)
  have hoctet : (UInt8.ofNat char.toNat).toNat = char.toNat :=
    UInt8.toNat_ofNat_of_lt' (Nat.lt_trans h.toNat_lt (by decide))
  rw [octets, hencoded, List.map_singleton, hoctet]
  · rfl
  · exact fun _ _ _ hpercent => absurd hpercent h.ne_percent
  · exact h.ne_plus

theorem octets_append_of_isPlain {chars : List Char} (h : ∀ char ∈ chars, IsPlain char)
    (rest : List Char) : octets (chars ++ rest) = chars.map Char.toNat ++ octets rest := by
  induction chars with
  | nil => rfl
  | cons char chars ih =>
      rw [List.cons_append, octets_cons_of_isPlain (h char List.mem_cons_self),
        ih (fun other hother => h other (List.mem_cons_of_mem char hother))]
      rfl

theorem isPlain_of_isNameChar {char : Char} (h : char.isAlphanum ∨ char = '_') :
    IsPlain char := by
  rcases h with halphanum | rfl
  · have hvalue : char.val.toNat ≤ 'z'.val.toNat :=
      UInt32.le_iff_toNat_le.mp (Char.le_def.mp (Column.between_of_isAlphanum halphanum).2)
    have hascii : char.toNat < 0x80 := Nat.lt_of_le_of_lt hvalue (by decide)
    refine ⟨hascii, ?_, ?_⟩
    · rintro rfl
      exact absurd halphanum (by decide)
    · rintro rfl
      exact absurd halphanum (by decide)
  · exact ⟨by decide, by decide, by decide⟩

end Form

end Text

/-! ## Spellings of entries -/

namespace SortField

inductive Sign where
  | none
  | minus
  | plus
  | escapedPlus
  deriving DecidableEq, Repr

namespace Sign

def written : Sign → String
  | .none => ""
  | .minus => "-"
  | .plus => "+"
  | .escapedPlus => "%2B"

def received : Sign → String
  | .none => ""
  | .minus => "-"
  | .plus => " "
  | .escapedPlus => "+"

def direction : Sign → Direction
  | .minus => .descending
  | .none | .plus | .escapedPlus => .ascending

theorem octets_written (sign : Sign) (rest : List Char) :
    Text.Form.octets (sign.written.toList ++ rest) =
      sign.received.toList.map Char.toNat ++ Text.Form.octets rest := by
  cases sign with
  | none => rfl
  | minus =>
      exact Text.Form.octets_cons_of_isPlain ⟨by decide, by decide, by decide⟩ rest
  | plus =>
      change Text.Form.octets ('+' :: rest) = ' '.toNat :: Text.Form.octets rest
      rw [Text.Form.octets]
  | escapedPlus =>
      change Text.Form.octets ('%' :: '2' :: 'B' :: rest) = '+'.toNat :: Text.Form.octets rest
      rw [Text.Form.octets]
      rfl

end Sign

structure Spelling where
  sign : Sign
  column : String
  deriving DecidableEq, Repr

namespace Spelling

def written (spelling : Spelling) : String := spelling.sign.written ++ spelling.column

def received (spelling : Spelling) : String := spelling.sign.received ++ spelling.column

/-- The field that the spelling is documented to stand for. -/
def field (spelling : Spelling) : SortField := ⟨spelling.column, spelling.sign.direction⟩

def address (spellings : List Spelling) : String :=
  "sort=" ++ ",".intercalate (spellings.map written)

variable {spelling : Spelling} {spellings : List Spelling}

theorem octets_written (h : Column.IsName spelling.column) (rest : List Char) :
    Text.Form.octets (spelling.written.toList ++ rest) =
      spelling.received.toList.map Char.toNat ++ Text.Form.octets rest := by
  have hname := Text.Form.octets_append_of_isPlain
    (fun char hchar => Text.Form.isPlain_of_isNameChar (h.isNameChar char hchar)) rest
  rw [written, received, String.toList_append, String.toList_append, List.append_assoc,
    List.map_append, List.append_assoc, ← hname, Sign.octets_written]

theorem octets_intercalate (h : ∀ spelling ∈ spellings, Column.IsName spelling.column) :
    Text.Form.octets ([','].intercalate (spellings.map (·.written.toList))) =
      ([','].intercalate (spellings.map (·.received.toList))).map Char.toNat := by
  induction spellings with
  | nil => rfl
  | cons spelling spellings ih =>
      obtain ⟨hfirst, hrest⟩ := List.forall_mem_cons.mp h
      cases spellings with
      | nil =>
          have hlast := octets_written hfirst []
          rw [List.append_nil] at hlast
          simpa [Text.Form.octets] using hlast
      | cons next spellings =>
          simp only [List.map_cons, List.intercalate_cons_cons, List.append_assoc,
            List.map_append] at ih ⊢
          rw [octets_written hfirst, List.singleton_append,
            Text.Form.octets_cons_of_isPlain ⟨by decide, by decide, by decide⟩, ih hrest]
          rfl

theorem char_of_received (h : Column.IsName spelling.column) {char : Char}
    (hchar : char ∈ spelling.received.toList) : char.toNat < 0x80 ∧ char ≠ ',' := by
  rw [received, String.toList_append, List.mem_append] at hchar
  rcases hchar with hsign | hname
  · have hsigns : ∀ sign : Sign, ∀ other ∈ sign.received.toList,
        other.toNat < 0x80 ∧ other ≠ ',' := by
      intro sign
      cases sign <;> simp [Sign.received]
    exact hsigns _ char hsign
  · refine ⟨(Text.Form.isPlain_of_isNameChar (h.isNameChar char hname)).toNat_lt, ?_⟩
    rintro rfl
    exact (Column.isName_iff.mp h).1.not_mem ',' (by decide) hname

theorem char_of_written (h : Column.IsName spelling.column) {char : Char}
    (hchar : char ∈ spelling.written.toList) : char ≠ '#' ∧ char ≠ '&' := by
  rw [written, String.toList_append, List.mem_append] at hchar
  rcases hchar with hsign | hname
  · have hsigns : ∀ sign : Sign, ∀ other ∈ sign.written.toList, other ≠ '#' ∧ other ≠ '&' := by
      intro sign
      cases sign <;> simp [Sign.written]
    exact hsigns _ char hsign
  · have hspelled := (Column.isName_iff.mp h).1
    constructor
    · rintro rfl
      exact hspelled.not_mem '#' (by decide) hname
    · rintro rfl
      exact hspelled.not_mem '&' (by decide) hname

theorem decode_written (h : ∀ spelling ∈ spellings, Column.IsName spelling.column) :
    Text.Form.decode (",".intercalate (spellings.map written)) =
      ",".intercalate (spellings.map received) := by
  have hascii : ∀ char ∈ [','].intercalate (spellings.map (·.received.toList)),
      char.toNat < 0x80 := by
    refine Text.forall_mem_intercalate (by decide) ?_
    rintro part hpart char hchar
    obtain ⟨spelling, hspelling, rfl⟩ := List.mem_map.mp hpart
    exact (char_of_received (h spelling hspelling) hchar).1
  have hchars (spell : Spelling → String) : (",".intercalate (spellings.map spell)).toList =
      [','].intercalate (spellings.map fun spelling => (spell spelling).toList) := by
    rw [String.toList_intercalate, List.map_map]
    rfl
  rw [Text.Form.decode, hchars written, octets_intercalate h, Text.Utf8.decode_map_toNat hascii,
    ← hchars received, String.ofList_toList]

theorem ofForm_address (h : ∀ spelling ∈ spellings, Column.IsName spelling.column) :
    RawQuery.ofForm (address spellings) =
      .ok { RawQuery.empty with sort := some (",".intercalate (spellings.map received)) } := by
  let value := ",".intercalate (spellings.map written)
  have hvalue : ∀ char ∈ value.toList, char ≠ '#' ∧ char ≠ '&' := by
    rw [String.toList_intercalate]
    refine Text.forall_mem_intercalate (by decide) ?_
    rintro part hpart char hchar
    obtain ⟨_, htext, rfl⟩ := List.mem_map.mp hpart
    obtain ⟨spelling, hspelling, rfl⟩ := List.mem_map.mp htext
    exact char_of_written (h spelling hspelling) hchar
  have haddress : (address spellings).toList = "sort".toList ++ '=' :: value.toList := by
    simp [address, value]
  have habsent {char : Char} (hlead : char ∉ "sort=".toList) (hrest : char ∉ value.toList) :
      char ∉ (address spellings).toList := by
    simp only [address, String.toList_append, List.mem_append, not_or]
    exact ⟨hlead, hrest⟩
  have hfragment : Text.cutAt? '#' (address spellings) = none :=
    Text.cutAt?_eq_none_iff.mpr (habsent (by decide) fun hmem => (hvalue _ hmem).1 rfl)
  have hsingle : Text.splitOn '&' (address spellings) = [address spellings] :=
    Text.splitOn_of_not_mem (habsent (by decide) fun hmem => (hvalue _ hmem).2 rfl)
  have hcut : Text.cutAt? '=' (address spellings) = some ("sort", value) :=
    Text.cutAt?_eq_some_iff.mpr ⟨by decide, haddress⟩
  have hne : address spellings ≠ "" := by
    rw [← String.toList_inj.ne, haddress]
    simp
  have hkept : [address spellings].filter (¬ ·.isEmpty) = [address spellings] := by
    simp [hne]
  have hkey : Text.Form.decode "sort" = "sort" := by decide +kernel
  have hpair : Text.Form.pair (address spellings) =
      ("sort", ",".intercalate (spellings.map received)) := by
    rw [Text.Form.pair, hcut]
    exact Prod.ext hkey (decode_written h)
  have hpairs : Text.Form.pairs (address spellings) =
      [("sort", ",".intercalate (spellings.map received))] := by
    rw [Text.Form.pairs, hfragment, Option.map_none, Option.getD_none]
    simp only [hsingle]
    rw [hkept, List.map_singleton, hpair]
  rw [RawQuery.ofForm, hpairs]
  rfl

/-! ## Entries as they are received -/

theorem validate_space (column : String) :
    Column.validate (" " ++ column) =
      .error (.invalidColumn (" " ++ column) .unacceptableName) := by
  have hspace : (" " ++ column).toList.all Column.isPathChar = false := by
    rw [String.toList_append, List.all_append]
    rfl
  have hrefused : ((" " ++ column).toList.isEmpty ||
      !(" " ++ column).toList.all Column.isPathChar) = true := by
    rw [hspace, Bool.not_false, Bool.or_true]
  exact if_pos hrefused

theorem split_received (h : Column.IsName spelling.column) :
    split spelling.received =
      (if spelling.sign = .plus then " " ++ spelling.column else spelling.column,
        spelling.sign.direction) := by
  have hspelled := (Column.isName_iff.mp h).1
  have hminus : '-' ∉ spelling.column.toList := hspelled.not_mem '-' (by decide)
  have hplus : '+' ∉ spelling.column.toList := hspelled.not_mem '+' (by decide)
  obtain ⟨sign, column⟩ := spelling
  have hdrop : dropPlus column = column := by
    rw [dropPlus, Text.after?_eq_none_of_not_mem '+' (by decide) hplus]
    rfl
  cases sign with
  | none =>
      have hreceived : received ⟨.none, column⟩ = column := String.empty_append
      rw [hreceived, split, Text.after?_eq_none_of_not_mem '-' (by decide) hminus]
      simp only [hdrop]
      rfl
  | minus =>
      have hrest : Text.after? "-" (received ⟨.minus, column⟩) = some column :=
        Text.after?_eq_some_iff.mpr String.toList_append
      rw [split, hrest]
      simp only [hdrop]
      rfl
  | plus =>
      have hlead : Text.after? "-" (received ⟨.plus, column⟩) = none :=
        Text.after?_eq_none_of_not_mem '-' (by decide) (by simpa [received, Sign.received])
      have hrest : Text.after? "+" (received ⟨.plus, column⟩) = none :=
        Text.after?_eq_none_of_not_mem '+' (by decide) (by simpa [received, Sign.received])
      rw [split, hlead]
      simp only [dropPlus, hrest]
      rfl
  | escapedPlus =>
      have hlead : Text.after? "-" (received ⟨.escapedPlus, column⟩) = none :=
        Text.after?_eq_none_of_not_mem '-' (by decide) (by simpa [received, Sign.received])
      have hrest : Text.after? "+" (received ⟨.escapedPlus, column⟩) = some column :=
        Text.after?_eq_some_iff.mpr String.toList_append
      rw [split, hlead]
      simp only [dropPlus, hrest]
      rfl

theorem ofEntry_received (h : Column.IsName spelling.column) :
    ofEntry spelling.received =
      if spelling.sign = .plus then
        .error (.invalidColumn (" " ++ spelling.column) .unacceptableName)
      else .ok spelling.field := by
  have hvalid := (Column.isName_iff.mp h).1.validate_eq_ok
  rw [ofEntry, split_received h]
  by_cases hplus : spelling.sign = .plus
  · simp only [if_pos hplus, validate_space]
    rfl
  · simp only [if_neg hplus, hvalid]
    rfl

theorem mapM_ofEntry_received (h : ∀ spelling ∈ spellings, Column.IsName spelling.column) :
    (spellings.map received).mapM ofEntry =
      match spellings.find? (·.sign = .plus) with
      | none => .ok (spellings.map field)
      | some spelling =>
          .error (.invalidColumn (" " ++ spelling.column) .unacceptableName) := by
  induction spellings with
  | nil => rfl
  | cons spelling spellings ih =>
      obtain ⟨hfirst, hrest⟩ := List.forall_mem_cons.mp h
      rw [List.map_cons, List.mapM_cons, ofEntry_received hfirst, ih hrest, List.find?_cons]
      by_cases hplus : spelling.sign = .plus
      · simp only [hplus, if_true, decide_true]
        rfl
      · simp only [hplus, if_false, decide_false]
        cases spellings.find? (·.sign = .plus) <;> rfl

theorem parseSort_received (hne : spellings ≠ [])
    (h : ∀ spelling ∈ spellings, Column.IsName spelling.column) :
    parseSort (some (",".intercalate (spellings.map received))) =
      match spellings.find? (·.sign = .plus) with
      | none => .ok (spellings.map field)
      | some spelling =>
          .error (.invalidColumn (" " ++ spelling.column) .unacceptableName) := by
  have hreceived : spellings.map received ≠ [] := by simpa using hne
  have hcomma : ∀ part ∈ spellings.map received, ',' ∉ part.toList := by
    rw [List.forall_mem_map]
    intro spelling hspelling hcomma
    exact (char_of_received (h spelling hspelling) hcomma).2 rfl
  have hcolumn : ∀ part ∈ spellings.map received, part ≠ "" := by
    rw [List.forall_mem_map]
    intro spelling hspelling hempty
    rw [received, String.append_eq_empty_iff] at hempty
    exact (h spelling hspelling).ne_nil (String.toList_eq_nil_iff.mpr hempty.2)
  have hparts : Text.splitOn ',' (",".intercalate (spellings.map received)) =
      spellings.map received :=
    Text.splitOn_intercalate hreceived hcomma
  have hsome : ",".intercalate (spellings.map received) ≠ "" :=
    Text.intercalate_ne_empty hreceived hcomma hcolumn
  rw [← mapM_ofEntry_received h, parseSort, Option.getD_some, hparts]
  simp [hsome]

end Spelling

end SortField

/-! ## Requests with sort fields alone -/

namespace Query

open SortField

variable {catalog : Catalog} {model : Model}

def sorted (sort : List SortField) : Query :=
  { page := parsePage none
    perPage := parsePerPage none
    fields := []
    sort := sort
    condition := .group []
    loads := []
    relationColumns := [] }

theorem isReading_sorted {content : String} {sort : List SortField}
    (h : parseSort (some content) = .ok sort) :
    (sorted sort).IsReading catalog model { RawQuery.empty with sort := some content } :=
  { condition := rfl
    loads := rfl
    fields := rfl
    sort := h
    relationColumns := rfl
    page := rfl
    perPage := rfl }

theorem parse_sorted {content : String} {sort : List SortField}
    (h : parseSort (some content) = .ok sort)
    (hnames : ∀ field ∈ sort, Column.IsName field.column ∧ field.column ∈ model.columns) :
    parse catalog model { RawQuery.empty with sort := some content } = .ok (sorted sort) := by
  refine parse_eq_ok_iff.mpr ⟨isReading_sorted h, ?_⟩
  intro column hcolumn
  have hsort : column ∈ sort.map (·.column) := by
    simpa [usedColumns, sorted, Condition.predicates, Condition.predicatesAmong] using hcolumn
  obtain ⟨field, hfield, rfl⟩ := List.mem_map.mp hsort
  exact .inl ⟨(Column.isName_iff.mp (hnames field hfield).1).2, (hnames field hfield).2⟩

theorem parse_of_parseSort_error {content : String} {error : QueryError}
    (h : parseSort (some content) = .error error) :
    parse catalog model { RawQuery.empty with sort := some content } = .error error := by
  refine parse_of_firstMistake? ?_
  simp only [RawQuery.firstMistake?, h]
  rfl

/-- An address that lists columns to sort by is accepted just where no column has a plus in
front of it that is not escaped; it is then read as the fields that are documented for it, and
otherwise rejected for the first such column, which is read with a space. -/
theorem sort_of_address (catalog : Catalog) (model : Model) {spellings : List Spelling}
    (hne : spellings ≠ [])
    (hcolumns : ∀ spelling ∈ spellings,
      Column.IsName spelling.column ∧ spelling.column ∈ model.columns) :
    ∃ raw, RawQuery.ofForm (Spelling.address spellings) = .ok raw ∧
      ((∃ query, parse catalog model raw = .ok query ∧
          query.sort = spellings.map Spelling.field) ↔
        ∀ spelling ∈ spellings, spelling.sign ≠ .plus) ∧
      ∀ spelling, spellings.find? (·.sign = .plus) = some spelling →
        parse catalog model raw =
          .error (.invalidColumn (" " ++ spelling.column) .unacceptableName) := by
  have hnames : ∀ spelling ∈ spellings, Column.IsName spelling.column :=
    fun spelling hspelling => (hcolumns spelling hspelling).1
  have hsort := Spelling.parseSort_received hne hnames
  refine ⟨_, Spelling.ofForm_address hnames, ⟨?_, ?_⟩, ?_⟩
  · rintro ⟨query, hquery, -⟩ spelling hspelling hplus
    cases hfind : spellings.find? (·.sign = .plus) with
    | none => simpa [hplus] using List.find?_eq_none.mp hfind spelling hspelling
    | some first =>
        rw [hfind] at hsort
        cases hquery.symm.trans (parse_of_parseSort_error hsort)
  · intro hplain
    have hfind : spellings.find? (·.sign = .plus) = none := by
      simpa using hplain
    rw [hfind] at hsort
    refine ⟨_, parse_sorted hsort ?_, rfl⟩
    intro field hfield
    obtain ⟨spelling, hspelling, rfl⟩ := List.mem_map.mp hfield
    exact hcolumns spelling hspelling
  · intro spelling hfind
    rw [hfind] at hsort
    exact parse_of_parseSort_error hsort

theorem sort_of_address_signs :
    let spellings : List Spelling :=
      [⟨.minus, "age"⟩, ⟨.escapedPlus, "profile_id"⟩, ⟨.none, "id"⟩]
    spellings ≠ [] ∧
      (∀ spelling ∈ spellings,
        Column.IsName spelling.column ∧ spelling.column ∈ Sample.user.columns) ∧
      Spelling.address spellings = "sort=-age,%2Bprofile_id,id" ∧
      ∃ raw query, RawQuery.ofForm "sort=-age,%2Bprofile_id,id" = .ok raw ∧
        parse Sample.registry.catalog Sample.user raw = .ok query ∧
        query.sort = [⟨"age", .descending⟩, ⟨"profile_id", .ascending⟩, ⟨"id", .ascending⟩] := by
  intro spellings
  have hne : spellings ≠ [] := by decide
  have hcolumns : ∀ spelling ∈ spellings,
      Column.IsName spelling.column ∧ spelling.column ∈ Sample.user.columns := by
    decide
  have haddress : Spelling.address spellings = "sort=-age,%2Bprofile_id,id" := by
    decide +kernel
  have hsigns : ∀ spelling ∈ spellings, spelling.sign ≠ .plus := by decide
  obtain ⟨raw, hraw, hread, -⟩ :=
    sort_of_address Sample.registry.catalog Sample.user hne hcolumns
  obtain ⟨query, hquery, hsort⟩ := hread.mpr hsigns
  exact ⟨hne, hcolumns, haddress, raw, query, haddress ▸ hraw, hquery, hsort⟩

theorem rejects_plus_in_address :
    let spelling : Spelling := ⟨.plus, "age"⟩
    Column.IsName "age" ∧ "age" ∈ Sample.user.columns ∧
      Spelling.address [spelling] = "sort=+age" ∧ spelling.field = ⟨"age", .ascending⟩ ∧
      RawQuery.ofForm "sort=+age" = .ok { RawQuery.empty with sort := some " age" } ∧
      parse Sample.registry.catalog Sample.user { RawQuery.empty with sort := some " age" } =
        .error (.invalidColumn " age" .unacceptableName) := by
  intro spelling
  have hform : RawQuery.ofForm "sort=+age" =
      .ok { RawQuery.empty with sort := some " age" } := by
    decide +kernel
  have hsort : parseSort (some " age") = .error (.invalidColumn " age" .unacceptableName) := by
    rfl
  exact ⟨by decide, by decide, by decide, rfl, hform, parse_of_parseSort_error hsort⟩

end Query

end ListQuery
