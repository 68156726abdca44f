import ListQuery.Page

/-!
# The place of a page

The greatest page and the greatest size are chosen together: even then the offset is a
signed integer, so nothing is cut off it.  The page that is shown computes the rows before it
once more and without this limit.  For parameters that were read both are the same number,
from which the places of the rows are counted.
-/

namespace ListQuery

/-! ## Windows -/

theorem Window.offset_of (perPage page : Nat) :
    (Window.of perPage page).offset = min ((page - 1) * perPage) greatestOffset := by
  have hlimits : greatestOffset ≤ unsignedLimit - 1 := by decide
  calc
    (Window.of perPage page).offset =
        min (min ((page - 1) * perPage) (unsignedLimit - 1)) greatestOffset := rfl
    _ = min ((page - 1) * perPage) (min (unsignedLimit - 1) greatestOffset) :=
      Nat.min_assoc ..
    _ = min ((page - 1) * perPage) greatestOffset := by rw [Nat.min_eq_right hlimits]

theorem rows_le_greatestOffset {perPage page : Nat} (hpage : page ≤ greatestPage)
    (hsize : perPage ≤ greatestPerPage) : (page - 1) * perPage ≤ greatestOffset := by
  calc
    (page - 1) * perPage ≤ (greatestPage - 1) * greatestPerPage :=
      Nat.mul_le_mul (Nat.sub_le_sub_right hpage 1) hsize
    _ = greatestOffset / greatestPerPage * greatestPerPage := rfl
    _ ≤ greatestOffset := Nat.div_mul_le_self ..

/-! ## Pages -/

namespace Page

/-- No number on the way to the place of `count` rows is too great for an unsigned integer. -/
structure Fits (perPage current count : Nat) : Prop where
  before : (current - 1) * perPage < unsignedLimit
  first : (current - 1) * perPage + 1 < unsignedLimit
  last : (current - 1) * perPage + count < unsignedLimit

theorem fits_of_le {perPage current count : Nat}
    (hbefore : (current - 1) * perPage ≤ greatestOffset) (hsize : perPage ≤ greatestPerPage)
    (hcount : count ≤ perPage) : Fits perPage current count := by
  have hroom : greatestOffset + greatestPerPage < unsignedLimit := by decide
  have hone : 1 ≤ greatestPerPage := by decide
  constructor <;> omega

variable {α : Type} {rows : List α} {perPage current : Nat}

theorem place_of_fits (total : Nat) (hrows : rows ≠ []) (hsize : 1 ≤ perPage)
    (hfits : Fits perPage current rows.length) :
    (of rows total perPage current).first = (current - 1) * perPage + 1 ∧
      (of rows total perPage current).last = (current - 1) * perPage + rows.length := by
  have hroom : max perPage 1 = perPage := Nat.max_eq_left hsize
  have hbefore : rowsBefore perPage current = (current - 1) * perPage :=
    saturatingMul_of_lt hfits.before
  have hempty : rows.isEmpty = false := List.isEmpty_eq_false_iff.mpr hrows
  constructor
  · simp only [of, hroom, hbefore, hempty]
    exact wrappingAdd_of_lt hfits.first
  · simp only [of, hroom, hbefore, hempty]
    exact wrappingAdd_of_lt hfits.last

theorem lastPage_le (rows : List α) (total perPage current : Nat) :
    (of rows total perPage current).lastPage ≤ max total 1 := by
  let size := max perPage 1
  have hsize : 1 ≤ size := Nat.le_max_right ..
  have hpages : total + (size - 1) ≤ size * max total 1 := by
    calc
      total + (size - 1) ≤ max total 1 + (size - 1) * max total 1 :=
        Nat.add_le_add (Nat.le_max_left ..) (Nat.le_mul_of_pos_right _ (Nat.le_max_right ..))
      _ = (size - 1 + 1) * max total 1 := by rw [Nat.add_one_mul, Nat.add_comm]
      _ = size * max total 1 := by rw [Nat.sub_add_cancel hsize]
  exact Nat.max_le.mpr ⟨Nat.div_le_of_le_mul hpages, Nat.le_max_right ..⟩

end Page

/-! ## Parameters -/

/-- Whatever is asked for, the window and the page that is shown are computed without an
overflow and agree on the place of the rows. -/
theorem Page.place_of_parse (number? size? : Option String) :
    let page := parsePage number?
    let perPage := parsePerPage size?
    let window := Window.of perPage page
    (1 ≤ page ∧ page ≤ greatestPage) ∧ (2 ≤ perPage ∧ perPage ≤ 10000) ∧
      window.limit = perPage ∧ window.offset = (page - 1) * perPage ∧
      window.offset ≤ signedLimit - 1 ∧
      (∀ (α : Type) (rows : List α) (total : Nat), rows ≠ [] → rows.length ≤ perPage →
        let shown := Page.of rows total perPage page
        Page.Fits perPage page rows.length ∧ shown.lastPage ≤ max total 1 ∧
          shown.first = window.offset + 1 ∧ shown.last = window.offset + rows.length) ∧
      ∀ size number : Nat,
        (Window.of size number).offset = min ((number - 1) * size) (signedLimit - 1) := by
  intro page perPage window
  have hpage : 1 ≤ page ∧ page ≤ greatestPage :=
    boundedParameter_mem_range (by decide) (by decide) number?
  have hsize : 2 ≤ perPage ∧ perPage ≤ greatestPerPage :=
    boundedParameter_mem_range (by decide) (by decide) size?
  have hbefore : (page - 1) * perPage ≤ greatestOffset :=
    rows_le_greatestOffset hpage.2 hsize.2
  have hoffset : window.offset = (page - 1) * perPage := by
    rw [Window.offset_of, Nat.min_eq_left hbefore]
  have hsigned : window.offset ≤ greatestOffset := hoffset ▸ hbefore
  refine ⟨hpage, hsize, rfl, hoffset, hsigned, ?_, Window.offset_of⟩
  intro α rows total hrows hcount shown
  have hfits : Page.Fits perPage page rows.length :=
    Page.fits_of_le hbefore hsize.2 hcount
  have hplace := Page.place_of_fits total hrows (Nat.le_of_succ_le hsize.1) hfits
  rw [← hoffset] at hplace
  exact ⟨hfits, Page.lastPage_le rows total perPage page, hplace⟩

theorem Page.place_of_greatest :
    let rows := ["Ada", "Grace"]
    let shown := Page.of rows 9223372036854770002 10000 922337203685478
    parsePage (some "922337203685478") = 922337203685478 ∧
      parsePerPage (some "10000") = 10000 ∧ rows ≠ [] ∧ rows.length ≤ 10000 ∧
      shown.first = 9223372036854770001 ∧ shown.last = 9223372036854770002 := by
  intro rows shown
  have hpage : parsePage (some "922337203685478") = 922337203685478 := by decide +kernel
  have hsize : parsePerPage (some "10000") = 10000 := by decide +kernel
  have hrows : rows ≠ [] := by decide
  have hcount : rows.length ≤ 10000 := by decide
  obtain ⟨-, -, -, -, -, hplace, -⟩ :=
    Page.place_of_parse (some "922337203685478") (some "10000")
  rw [hpage, hsize] at hplace
  obtain ⟨-, -, hfirst, hlast⟩ := hplace String rows 9223372036854770002 hrows hcount
  exact ⟨hpage, hsize, hrows, hcount, hfirst, hlast⟩

end ListQuery
