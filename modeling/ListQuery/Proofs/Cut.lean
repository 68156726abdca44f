import Mathlib.Data.List.Basic
import Mathlib.Data.List.TakeWhile
import ListQuery.Text.Blank
import ListQuery.Text.Cut

/-!
# Laws of cuts

A beginning, an ending or a separator that is found in a text stands there together with
what the cut yields, and a cut fails just where there is nothing to find.  A trimmed text is what
stands between the blanks at its two ends.
-/

namespace ListQuery.Text

theorem begins_append (lead rest : String) : lead.toList <+: (lead ++ rest).toList := by
  rw [String.toList_append]
  exact List.prefix_append _ _

theorem ends_append (front ending : String) : ending.toList <:+ (front ++ ending).toList := by
  rw [String.toList_append]
  exact List.suffix_append _ _

theorem after?_eq_some_iff {lead text rest : String} :
    after? lead text = some rest ↔ text.toList = lead.toList ++ rest.toList := by
  rw [after?, Option.map_eq_some_iff]
  constructor
  · rintro ⟨chars, hchars, rfl⟩
    rw [String.toList_ofList]
    exact (List.append_eq_of_isPrefixOf?_eq_some hchars).symm
  · intro h
    exact ⟨rest.toList, List.isPrefixOf?_eq_some_iff_append_eq.mpr h.symm, String.ofList_toList⟩

theorem eq_append_of_after? {lead text rest : String} (h : after? lead text = some rest) :
    text = lead ++ rest := by
  rw [← String.toList_inj, String.toList_append]
  exact after?_eq_some_iff.mp h

theorem after?_eq_none_iff {lead text : String} :
    after? lead text = none ↔ ¬ lead.toList <+: text.toList := by
  constructor
  · rintro hnone ⟨rest, hrest⟩
    have hsome : after? lead text = some (String.ofList rest) := by
      rw [after?_eq_some_iff, String.toList_ofList, hrest]
    rw [hnone] at hsome
    cases hsome
  · intro hlead
    cases hafter : after? lead text with
    | none => rfl
    | some rest => exact absurd ⟨rest.toList, (after?_eq_some_iff.mp hafter).symm⟩ hlead

theorem before?_eq_some_iff {ending text front : String} :
    before? ending text = some front ↔ text.toList = front.toList ++ ending.toList := by
  rw [before?, Option.map_eq_some_iff]
  constructor
  · rintro ⟨chars, hchars, rfl⟩
    rw [String.toList_ofList]
    exact (List.append_eq_of_isSuffixOf?_eq_some hchars).symm
  · intro h
    exact ⟨front.toList, List.isSuffixOf?_eq_some_iff_append_eq.mpr h.symm, String.ofList_toList⟩

theorem eq_append_of_before? {ending text front : String} (h : before? ending text = some front) :
    text = front ++ ending := by
  rw [← String.toList_inj, String.toList_append]
  exact before?_eq_some_iff.mp h

theorem before?_eq_none_iff {ending text : String} :
    before? ending text = none ↔ ¬ ending.toList <:+ text.toList := by
  constructor
  · rintro hnone ⟨front, hfront⟩
    have hsome : before? ending text = some (String.ofList front) := by
      rw [before?_eq_some_iff, String.toList_ofList, hfront]
    rw [hnone] at hsome
    cases hsome
  · intro hending
    cases hbefore : before? ending text with
    | none => rfl
    | some front => exact absurd ⟨front.toList, (before?_eq_some_iff.mp hbefore).symm⟩ hending

section Run

variable {α : Type} {keep : α → Bool} {front rest : List α}

theorem takeWhile_append_of_head? (hfront : ∀ item ∈ front, keep item = true)
    (hrest : ∀ item ∈ rest.head?, keep item = false) : (front ++ rest).takeWhile keep = front := by
  rw [List.takeWhile_append_of_pos hfront]
  cases rest with
  | nil => simp
  | cons item rest =>
      have hitem : keep item = false := hrest item rfl
      simp [hitem]

theorem dropWhile_append_of_head? (hfront : ∀ item ∈ front, keep item = true)
    (hrest : ∀ item ∈ rest.head?, keep item = false) : (front ++ rest).dropWhile keep = rest := by
  rw [List.dropWhile_append_of_pos hfront]
  cases rest with
  | nil => simp
  | cons item rest =>
      have hitem : keep item = false := hrest item rfl
      simp [hitem]

end Run

theorem cutAt?_eq_none_iff {separator : Char} {text : String} :
    cutAt? separator text = none ↔ separator ∉ text.toList := by
  constructor
  · intro hnone hmem
    unfold cutAt? at hnone
    split at hnone
    · next hdrop =>
        simpa using List.dropWhile_eq_nil_iff.mp hdrop separator hmem
    · cases hnone
  · intro hmem
    cases hcut : cutAt? separator text with
    | none => rfl
    | some parts =>
        have htext := toList_of_cutAt? hcut
        rw [htext] at hmem
        exact absurd (List.mem_append_right _ List.mem_cons_self) hmem

theorem cutAt?_eq_some_iff {separator : Char} {text front back : String} :
    cutAt? separator text = some (front, back) ↔
      separator ∉ front.toList ∧ text.toList = front.toList ++ separator :: back.toList := by
  constructor
  · intro hcut
    exact ⟨not_mem_of_cutAt? hcut, toList_of_cutAt? hcut⟩
  · rintro ⟨hfront, htext⟩
    have hkept : ∀ char ∈ front.toList, (char != separator) = true := by
      intro char hchar
      have hne : char ≠ separator := ne_of_mem_of_not_mem hchar hfront
      simpa using hne
    have hstop : ∀ char ∈ (separator :: back.toList).head?, (char != separator) = false := by
      simp
    have hdrop : text.toList.dropWhile (· != separator) = separator :: back.toList := by
      rw [htext, dropWhile_append_of_head? hkept hstop]
    have htake : text.toList.takeWhile (· != separator) = front.toList := by
      rw [htext, takeWhile_append_of_head? hkept hstop]
    unfold cutAt?
    rw [hdrop, htake]
    simp only [String.ofList_toList]

theorem not_mem_substitute {found written : Char} (h : found ≠ written) (text : String) :
    found ∉ (substitute found written text).toList := by
  rw [substitute, String.toList_ofList, List.mem_map]
  rintro ⟨char, -, hchar⟩
  split at hchar
  · exact h hchar.symm
  · next hkept => exact hkept hchar

/-! ## Texts without a character of the lead or ending -/

theorem after?_eq_none_of_not_mem (char : Char) {lead text : String}
    (hlead : char ∈ lead.toList) (htext : char ∉ text.toList) : after? lead text = none := by
  rw [after?_eq_none_iff]
  intro hfront
  exact htext (hfront.subset hlead)

theorem before?_eq_none_of_not_mem (char : Char) {ending text : String}
    (hending : char ∈ ending.toList) (htext : char ∉ text.toList) :
    before? ending text = none := by
  rw [before?_eq_none_iff]
  intro hback
  exact htext (hback.subset hending)

/-! ## Pieces -/

theorem splitOn_of_not_mem {separator : Char} {text : String} (h : separator ∉ text.toList) :
    splitOn separator text = [text] := by
  have hparts : ([separator].intercalate [text.toList]).splitOn separator = [text.toList] :=
    List.splitOn_intercalate separator (by simpa using h) (List.cons_ne_nil _ _)
  rw [List.intercalate_singleton] at hparts
  rw [splitOn, hparts]
  simp

theorem splitOn_intercalate {separator : Char} {parts : List String} (hne : parts ≠ [])
    (h : ∀ part ∈ parts, separator ∉ part.toList) :
    splitOn separator (separator.toString.intercalate parts) = parts := by
  have hparts : ([separator].intercalate (parts.map String.toList)).splitOn separator =
      parts.map String.toList :=
    List.splitOn_intercalate separator (by simpa using h) (by simpa using hne)
  have htext : (separator.toString.intercalate parts).toList =
      [separator].intercalate (parts.map String.toList) := by
    simp [String.toList_intercalate]
  rw [splitOn, htext, hparts]
  simp

theorem intercalate_ne_empty {separator : Char} {parts : List String} (hne : parts ≠ [])
    (h : ∀ part ∈ parts, separator ∉ part.toList) (hsome : ∀ part ∈ parts, part ≠ "") :
    separator.toString.intercalate parts ≠ "" := by
  intro hempty
  have hparts := splitOn_intercalate hne h
  rw [hempty, splitOn_of_not_mem (by simp)] at hparts
  exact hsome "" (hparts ▸ List.mem_singleton_self "") rfl

theorem splitOn_append (separator : Char) (front back : String) :
    splitOn separator (front ++ separator.toString ++ back) =
      splitOn separator front ++ splitOn separator back := by
  have hchars : (front ++ separator.toString ++ back).toList =
      front.toList ++ separator :: back.toList := by
    simp
  rw [splitOn, hchars, List.splitOn_append_cons_self, List.map_append]
  rfl

theorem not_mem_of_mem_splitOn {separator : Char} {text piece : String}
    (h : piece ∈ splitOn separator text) : separator ∉ piece.toList := by
  rw [splitOn, List.mem_map] at h
  obtain ⟨chars, hchars, rfl⟩ := h
  rw [String.toList_ofList]
  revert hchars chars
  induction text.toList with
  | nil => simp
  | cons char rest ih =>
      rw [List.splitOn_cons_eq_if_modifyHead]
      split
      · simpa using ih
      · next hchar =>
          cases hpieces : rest.splitOn separator with
          | nil => simp
          | cons first others =>
              rw [hpieces] at ih
              have hne : separator ≠ char := by
                rintro rfl
                exact hchar (beq_self_eq_true separator)
              simpa [hne] using ih

theorem intercalate_splitOn (separator : Char) (text : String) :
    separator.toString.intercalate (splitOn separator text) = text := by
  rw [← String.toList_inj, String.toList_intercalate, splitOn]
  simp [Function.comp_def, List.intercalate_splitOn]

/-! ## Blanks around a text -/

/-- What stands between the blanks at the two ends of a text. -/
structure IsCore (text core : String) : Prop where
  exists_blanks : ∃ lead tail, text.toList = lead ++ core.toList ++ tail ∧
    ∀ char ∈ lead ++ tail, isBlank char = true
  head : ∀ char ∈ core.toList.head?, isBlank char = false
  last : ∀ char ∈ core.toList.getLast?, isBlank char = false

theorem isBlank_of_mem_takeWhile {chars : List Char} :
    ∀ char ∈ chars.takeWhile isBlank, isBlank char = true :=
  List.all_eq_true.mp List.all_takeWhile

theorem not_isBlank_of_head?_trimLead (chars : List Char) :
    ∀ char ∈ (trimLead chars).head?, isBlank char = false := by
  intro char hchar
  have hhead := List.head?_dropWhile_not isBlank chars
  rw [← trimLead, Option.mem_def.mp hchar] at hhead
  simpa using hhead

theorem isCore_trim (text : String) : IsCore text (trim text) := by
  let back : List Char := (trimLead text.toList).reverse
  have hcore : (trim text).toList = (trimLead back).reverse := String.toList_ofList
  have hparts : back.takeWhile isBlank ++ trimLead back = back :=
    List.takeWhile_append_dropWhile
  have hback : trimLead text.toList =
      (trimLead back).reverse ++ (back.takeWhile isBlank).reverse := by
    rw [← List.reverse_append, hparts, List.reverse_reverse]
  refine ⟨⟨text.toList.takeWhile isBlank, (back.takeWhile isBlank).reverse, ?_, ?_⟩, ?_, ?_⟩
  · rw [hcore, List.append_assoc, ← hback, trimLead, List.takeWhile_append_dropWhile]
  · intro char hchar
    rcases List.mem_append.mp hchar with hlead | htail
    · exact isBlank_of_mem_takeWhile char hlead
    · exact isBlank_of_mem_takeWhile char (List.mem_reverse.mp htail)
  · intro char hchar
    apply not_isBlank_of_head?_trimLead text.toList char
    rw [hback, ← hcore, List.head?_append, hchar]
    rfl
  · rw [hcore, List.getLast?_reverse]
    exact not_isBlank_of_head?_trimLead back

theorem IsCore.trim_eq {text core : String} (h : IsCore text core) : trim text = core := by
  obtain ⟨lead, tail, htext, hblanks⟩ := h.exists_blanks
  have hlead : ∀ char ∈ lead, isBlank char = true := fun char hchar =>
    hblanks char (List.mem_append_left tail hchar)
  have htail : ∀ char ∈ tail.reverse, isBlank char = true := fun char hchar =>
    hblanks char (List.mem_append_right lead (List.mem_reverse.mp hchar))
  -- Without a core the blanks at the front go on to those at the end.
  by_cases hempty : core = ""
  · have hnone : trimLead text.toList = [] := by
      rw [htext, hempty]
      exact List.dropWhile_eq_nil_iff.mpr (by simpa using hblanks)
    rw [trim, hnone, hempty]
    rfl
  · have hfirst : ∀ char ∈ (core.toList ++ tail).head?, isBlank char = false := by
      rw [List.head?_append_of_ne_nil _ (by simpa using hempty)]
      exact h.head
    have hlast : ∀ char ∈ core.toList.reverse.head?, isBlank char = false := by
      rw [List.head?_reverse]
      exact h.last
    have hfront : trimLead text.toList = core.toList ++ tail := by
      rw [trimLead, htext, List.append_assoc, dropWhile_append_of_head? hlead hfirst]
    have hback : trimLead (core.toList ++ tail).reverse = core.toList.reverse := by
      rw [trimLead, List.reverse_append, dropWhile_append_of_head? htail hlast]
    rw [trim, hfront, hback, List.reverse_reverse, String.ofList_toList]

end ListQuery.Text
