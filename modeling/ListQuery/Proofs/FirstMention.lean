import Mathlib.Data.List.Induction
import Mathlib.Data.List.Nodup

/-!
# The order of first mention

A list without its repetitions keeps of each item the first.  Read from the left, an item is
passed over if it was there before, and otherwise stands at the end.
-/

namespace ListQuery

variable {α β : Type} [BEq α] [LawfulBEq α] [BEq β] [LawfulBEq β]

theorem eraseDups_concat_of_mem {items : List α} {item : α} (h : item ∈ items) :
    (items ++ [item]).eraseDups = items.eraseDups := by
  rw [List.eraseDups_append]
  simp [List.removeAll, h]

theorem eraseDups_concat_of_not_mem {items : List α} {item : α} (h : item ∉ items) :
    (items ++ [item]).eraseDups = items.eraseDups ++ [item] := by
  rw [List.eraseDups_append]
  simp [List.removeAll, h, List.eraseDups_cons]

theorem nodup_eraseDups (items : List α) : items.eraseDups.Nodup := by
  induction items using List.reverseRecOn with
  | nil => simp
  | append_singleton items item ih =>
      by_cases hmem : item ∈ items
      · rw [eraseDups_concat_of_mem hmem]
        exact ih
      · rw [eraseDups_concat_of_not_mem hmem, ← List.concat_eq_append]
        exact ih.concat (by simpa using hmem)

theorem perm_eraseDups {items others : List α} (h : items.Perm others) :
    items.eraseDups.Perm others.eraseDups := by
  rw [List.perm_ext_iff_of_nodup (nodup_eraseDups items) (nodup_eraseDups others)]
  intro item
  rw [List.mem_eraseDups, List.mem_eraseDups, h.mem_iff]

theorem eraseDups_append_self (items : List α) : (items ++ items).eraseDups = items.eraseDups := by
  have hnone : items.removeAll items = [] := by simp [List.removeAll]
  rw [List.eraseDups_append, hnone, List.eraseDups_nil, List.append_nil]

theorem eraseDups_concat_congr {items others : List α} (h : items.eraseDups = others.eraseDups)
    (item : α) : (items ++ [item]).eraseDups = (others ++ [item]).eraseDups := by
  have hiff : item ∈ items ↔ item ∈ others := by
    rw [← List.mem_eraseDups, h, List.mem_eraseDups]
  by_cases hmem : item ∈ items
  · rw [eraseDups_concat_of_mem hmem, eraseDups_concat_of_mem (hiff.mp hmem), h]
  · rw [eraseDups_concat_of_not_mem hmem, eraseDups_concat_of_not_mem (hmem ∘ hiff.mpr), h]

theorem eraseDups_filterMap (change : α → Option β) (items : List α) :
    (items.eraseDups.filterMap change).eraseDups = (items.filterMap change).eraseDups := by
  induction items using List.reverseRecOn with
  | nil => rfl
  | append_singleton items item ih =>
      by_cases hmem : item ∈ items
      · rw [eraseDups_concat_of_mem hmem, ih, List.filterMap_append]
        cases hchange : change item with
        | none => simp [hchange]
        | some changed =>
            have hchanged : changed ∈ items.filterMap change :=
              List.mem_filterMap.mpr ⟨item, hmem, hchange⟩
            simp [hchange, eraseDups_concat_of_mem hchanged]
      · rw [eraseDups_concat_of_not_mem hmem, List.filterMap_append, List.filterMap_append]
        cases hchange : change item with
        | none => simpa [hchange] using ih
        | some changed => simpa [hchange] using eraseDups_concat_congr ih changed

theorem eraseDups_filterMap_congr (change : α → Option β) {items others : List α}
    (h : items.eraseDups = others.eraseDups) :
    (items.filterMap change).eraseDups = (others.filterMap change).eraseDups := by
  rw [← eraseDups_filterMap, h, eraseDups_filterMap]

end ListQuery
