import Mathlib.Logic.ExistsUnique
import ListQuery.Proofs.Pagination

/-!
# Pages side by side

A page has rows just where fewer rows come before it than there are, and this is so up to the
last page and no further.  Its places begin after those rows and end where the next page
begins, or with the last row.  Pages of one size therefore follow on one another through all
rows.
-/

namespace ListQuery

/-! ## Windows of a listing -/

namespace Window

variable {perPage page total : Nat}

def count (window : Window) (total : Nat) : Nat := min window.limit (total - window.offset)

theorem offset_of_le (h : (page - 1) * perPage ≤ greatestOffset) :
    (of perPage page).offset = (page - 1) * perPage := by
  rw [offset_of, Nat.min_eq_left h]

theorem count_of_le (h : (page - 1) * perPage ≤ greatestOffset) :
    (of perPage page).count total = min perPage (total - (page - 1) * perPage) := by
  rw [count, offset_of_le h]
  rfl

end Window

namespace Page

variable {α : Type} {total perPage number : Nat}

/-! ## Numbers of pages -/

def pageCount (total perPage : Nat) : Nat := max ((total + (perPage - 1)) / perPage) 1

theorem lastPage_of (rows : List α) (total current : Nat) (hsize : 1 ≤ perPage) :
    (of rows total perPage current).lastPage = pageCount total perPage := by
  simp only [of, pageCount, Nat.max_eq_left hsize]

theorem one_le_pageCount (total perPage : Nat) : 1 ≤ pageCount total perPage :=
  Nat.le_max_right ..

theorem mul_eq_before_add (hnumber : 1 ≤ number) :
    number * perPage = (number - 1) * perPage + perPage := by
  rw [← Nat.add_one_mul, Nat.sub_add_cancel hnumber]

theorem le_pageCount_iff (hpos : 0 < total) (hsize : 1 ≤ perPage) (hnumber : 1 ≤ number) :
    number ≤ pageCount total perPage ↔ (number - 1) * perPage < total := by
  have hfilled : number ≤ (total + (perPage - 1)) / perPage ↔
      (number - 1) * perPage < total := by
    rw [Nat.le_div_iff_mul_le hsize, mul_eq_before_add hnumber]
    omega
  constructor
  · intro hlast
    by_cases hone : number = 1
    · simpa [hone] using hpos
    · have hquotient : number ≤ (total + (perPage - 1)) / perPage := by
        unfold pageCount at hlast
        omega
      exact hfilled.mp hquotient
  · intro hbefore
    exact Nat.le_trans (hfilled.mpr hbefore) (Nat.le_max_left ..)

theorem pageCount_zero (hsize : 1 ≤ perPage) : pageCount 0 perPage = 1 := by
  have hquotient : (0 + (perPage - 1)) / perPage = 0 := Nat.div_eq_of_lt (by omega)
  rw [pageCount, hquotient]
  rfl

theorem place_mem_iff {place : Nat} (hsize : 1 ≤ perPage) (hnumber : 1 ≤ number) :
    (number - 1) * perPage + 1 ≤ place ∧ place ≤ number * perPage ↔
      1 ≤ place ∧ number = (place - 1) / perPage + 1 := by
  have hquotient : (place - 1) / perPage = number - 1 ↔
      (number - 1) * perPage ≤ place - 1 ∧ place - 1 < number * perPage := by
    rw [Nat.div_eq_iff hsize, mul_eq_before_add hnumber]
    omega
  omega

/-! ## Walks -/

/-- The pages of a listing one after the other, each with the rows of its window. -/
structure IsWalk (total perPage : Nat) (rows : Nat → List α) : Prop where
  total_le : total ≤ greatestOffset
  one_le : 1 ≤ perPage
  length : ∀ number, 1 ≤ number → number ≤ pageCount total perPage →
    (rows number).length = (Window.of perPage number).count total

namespace IsWalk

variable {rows : Nat → List α}

theorem place (h : IsWalk total perPage rows) (hpos : 0 < total) (hnumber : 1 ≤ number)
    (hlast : number ≤ pageCount total perPage) :
    rows number ≠ [] ∧
      (of (rows number) total perPage number).first = (number - 1) * perPage + 1 ∧
      (of (rows number) total perPage number).last = min (number * perPage) total := by
  have hbefore : (number - 1) * perPage < total :=
    (le_pageCount_iff hpos h.one_le hnumber).mp hlast
  have hoffset : (number - 1) * perPage ≤ greatestOffset :=
    Nat.le_of_lt (Nat.lt_of_lt_of_le hbefore h.total_le)
  have hlength : (rows number).length = min perPage (total - (number - 1) * perPage) :=
    (h.length number hnumber hlast).trans (Window.count_of_le hoffset)
  have hsize := h.one_le
  have htotal := h.total_le
  have hsome : rows number ≠ [] := by
    rw [← List.length_pos_iff]
    omega
  have hroom : greatestOffset + 1 < unsignedLimit := by decide
  have hfits : Fits perPage number (rows number).length := by
    constructor <;> omega
  obtain ⟨hfirst, hend⟩ := place_of_fits total hsome hsize hfits
  refine ⟨hsome, hfirst, ?_⟩
  rw [hend, hlength, mul_eq_before_add hnumber]
  omega

theorem first_succ (h : IsWalk total perPage rows) (hpos : 0 < total) (hnumber : 1 ≤ number)
    (hmore : number < pageCount total perPage) :
    (of (rows (number + 1)) total perPage (number + 1)).first =
      (of (rows number) total perPage number).last + 1 := by
  have hnext : 1 ≤ number + 1 := Nat.le_add_left ..
  -- The next page has rows, so this one is full.
  have hfull : number * perPage < total := by
    simpa using (le_pageCount_iff hpos h.one_le hnext).mp hmore
  rw [(h.place hpos hnext hmore).2.1, (h.place hpos hnumber (Nat.le_of_lt hmore)).2.2,
    Nat.min_eq_left (Nat.le_of_lt hfull)]
  rfl

theorem last_pageCount (h : IsWalk total perPage rows) (hpos : 0 < total) :
    (of (rows (pageCount total perPage)) total perPage (pageCount total perPage)).last =
      total := by
  have hnext : 1 ≤ pageCount total perPage + 1 := Nat.le_add_left ..
  have hend : total ≤ pageCount total perPage * perPage := by
    refine Nat.le_of_not_lt fun hmore => Nat.not_succ_le_self (pageCount total perPage) ?_
    exact (le_pageCount_iff hpos h.one_le hnext).mpr (by simpa using hmore)
  rw [(h.place hpos (one_le_pageCount ..) (Nat.le_refl _)).2.2, Nat.min_eq_right hend]

theorem mem_page_iff (h : IsWalk total perPage rows) (hpos : 0 < total) (hnumber : 1 ≤ number)
    (hlast : number ≤ pageCount total perPage) {place : Nat} :
    (of (rows number) total perPage number).first ≤ place ∧
        place ≤ (of (rows number) total perPage number).last ↔
      (1 ≤ place ∧ place ≤ total) ∧ number = (place - 1) / perPage + 1 := by
  obtain ⟨-, hfirst, hend⟩ := h.place hpos hnumber hlast
  rw [hfirst, hend, Nat.le_min, ← and_assoc, place_mem_iff h.one_le hnumber, and_right_comm]

theorem existsUnique_iff (h : IsWalk total perPage rows) (hpos : 0 < total) (place : Nat) :
    1 ≤ place ∧ place ≤ total ↔
      ∃! number, (1 ≤ number ∧ number ≤ pageCount total perPage) ∧
        (of (rows number) total perPage number).first ≤ place ∧
          place ≤ (of (rows number) total perPage number).last := by
  constructor
  · intro hplace
    let number := (place - 1) / perPage + 1
    have hnumber : 1 ≤ number := Nat.le_add_left ..
    have hbefore : (number - 1) * perPage < total :=
      Nat.lt_of_le_of_lt (Nat.div_mul_le_self ..) (by omega)
    have hlast : number ≤ pageCount total perPage :=
      (le_pageCount_iff hpos h.one_le hnumber).mpr hbefore
    refine ⟨number, ⟨⟨hnumber, hlast⟩,
      (h.mem_page_iff hpos hnumber hlast).mpr ⟨hplace, rfl⟩⟩, ?_⟩
    rintro other ⟨⟨hother, hotherLast⟩, hmem⟩
    exact ((h.mem_page_iff hpos hother hotherLast).mp hmem).2
  · rintro ⟨number, ⟨⟨hnumber, hlast⟩, hmem⟩, -⟩
    exact ((h.mem_page_iff hpos hnumber hlast).mp hmem).1

theorem eq_nil_of_zero (h : IsWalk 0 perPage rows) : rows 1 = [] := by
  have hlength := h.length 1 (Nat.le_refl 1) (one_le_pageCount ..)
  rw [← List.length_eq_zero_iff, hlength, Window.count, Nat.zero_sub, Nat.min_zero]

end IsWalk

theorem le_offset_of_pageCount_lt (htotal : total ≤ greatestOffset) (hsize : 1 ≤ perPage)
    (hbeyond : pageCount total perPage < number) :
    total ≤ (Window.of perPage number).offset := by
  rw [Window.offset_of]
  refine Nat.le_min.mpr ⟨?_, htotal⟩
  rcases Nat.eq_zero_or_pos total with rfl | hpos
  · exact Nat.zero_le _
  · have hnumber : 1 ≤ number :=
      Nat.le_trans (one_le_pageCount total perPage) (Nat.le_of_lt hbeyond)
    exact Nat.le_of_not_lt fun hmore =>
      Nat.not_le_of_lt hbeyond ((le_pageCount_iff hpos hsize hnumber).mpr hmore)

/-- The pages of a listing cover the places from one to the total, each place once and in
order, and beyond the last of them there are no rows; a listing without rows has one page. -/
theorem tile (total perPage : Nat) (rows : Nat → List α) (htotal : total ≤ signedLimit - 1)
    (hsize : 1 ≤ perPage)
    (hrows : ∀ number, 1 ≤ number →
      number ≤ (of (rows number) total perPage number).lastPage →
      (rows number).length = min perPage (total - (Window.of perPage number).offset)) :
    let shown (number : Nat) : Page α := of (rows number) total perPage number
    let pages := (shown 1).lastPage
    (∀ number, (shown number).lastPage = pages) ∧
      (0 < total →
        (∀ number, 1 ≤ number → number ≤ pages → rows number ≠ []) ∧
        (shown 1).first = 1 ∧
        (∀ number, 1 ≤ number → number < pages →
          (shown (number + 1)).first = (shown number).last + 1) ∧
        (shown pages).last = total ∧
        ∀ place, 1 ≤ place ∧ place ≤ total ↔
          ∃! number, (1 ≤ number ∧ number ≤ pages) ∧
            (shown number).first ≤ place ∧ place ≤ (shown number).last) ∧
      (∀ number, pages < number → total ≤ (Window.of perPage number).offset) ∧
      (total = 0 → pages = 1 ∧ (shown 1).first = 0 ∧ (shown 1).last = 0) := by
  intro shown pages
  have hcount : ∀ number, (shown number).lastPage = pageCount total perPage :=
    fun number => lastPage_of (rows number) total number hsize
  have hpages : pages = pageCount total perPage := hcount 1
  have hwalk : IsWalk total perPage rows :=
    ⟨htotal, hsize, fun number hnumber hlast =>
      hrows number hnumber ((hcount number).symm ▸ hlast)⟩
  rw [hpages]
  refine ⟨hcount, fun hpos => ⟨?_, ?_, ?_, ?_, ?_⟩, ?_, ?_⟩
  · exact fun number hnumber hlast => (hwalk.place hpos hnumber hlast).1
  · simpa using (hwalk.place hpos (Nat.le_refl 1) (one_le_pageCount ..)).2.1
  · exact fun number hnumber hmore => hwalk.first_succ hpos hnumber hmore
  · exact hwalk.last_pageCount hpos
  · exact hwalk.existsUnique_iff hpos
  · exact fun number hbeyond => le_offset_of_pageCount_lt htotal hsize hbeyond
  · rintro rfl
    simp [shown, pageCount_zero hsize, of, hwalk.eq_nil_of_zero]

theorem tile_greatest :
    let total := 9223372036854775807
    let perPage := 4611686018427387904
    let rows (number : Nat) : List Unit :=
      List.replicate (min perPage (total - (Window.of perPage number).offset)) ()
    let shown (number : Nat) : Page Unit := of (rows number) total perPage number
    total ≤ signedLimit - 1 ∧ 1 ≤ perPage ∧ (1 ≤ 2 ∧ 2 ≤ (shown 2).lastPage) ∧
      (rows 2).length = min perPage (total - (Window.of perPage 2).offset) ∧
      (shown 1).lastPage = 2 ∧ (shown 1).first = 1 ∧
      (shown 2).first = (shown 1).last + 1 ∧ (shown 2).last = total := by
  intro total perPage rows shown
  have htotal : total ≤ signedLimit - 1 := by decide
  have hsize : 1 ≤ perPage := by decide
  have hrows : ∀ number, 1 ≤ number → number ≤ (shown number).lastPage →
      (rows number).length = min perPage (total - (Window.of perPage number).offset) :=
    fun number _ _ => List.length_replicate
  have hpages : (shown 1).lastPage = 2 := by decide
  obtain ⟨hcount, hplaces, -, -⟩ := tile total perPage rows htotal hsize hrows
  obtain ⟨-, hfirst, hnext, hend, -⟩ := hplaces (by decide)
  rw [hpages] at hend
  have hlast : (shown 2).lastPage = 2 := (hcount 2).trans hpages
  exact ⟨htotal, hsize, ⟨by decide, Nat.le_of_eq hlast.symm⟩, List.length_replicate, hpages, hfirst,
    hnext 1 (by decide) (hpages ▸ by decide), hend⟩

end Page

end ListQuery
