/-!
# Cutting text

Parameters are cut at separators and freed of fixed beginnings and endings.  Every cut is
computed on the list of characters, so its laws are those of `List`.
-/

namespace ListQuery.Text

/-- The runs between the occurrences of a separator, empty runs included. -/
def splitOn (separator : Char) (text : String) : List String :=
  (text.toList.splitOn separator).map String.ofList

def cutAt? (separator : Char) (text : String) : Option (String × String) :=
  match text.toList.dropWhile (· != separator) with
  | [] => none
  | _ :: rest =>
      some (String.ofList (text.toList.takeWhile (· != separator)),
        String.ofList rest)

def after? (lead text : String) : Option String :=
  (lead.toList.isPrefixOf? text.toList).map String.ofList

def before? (ending text : String) : Option String :=
  (ending.toList.isSuffixOf? text.toList).map String.ofList

def substitute (found written : Char) (text : String) : String :=
  String.ofList (text.toList.map fun char => if char = found then written else char)

/-! ## Laws of the cuts -/

theorem splitOn_ne_nil (separator : Char) (text : String) :
    splitOn separator text ≠ [] := by
  simp [splitOn]

theorem toList_of_cutAt? {separator : Char} {text front back : String}
    (h : cutAt? separator text = some (front, back)) :
    text.toList = front.toList ++ separator :: back.toList := by
  unfold cutAt? at h
  split at h
  · cases h
  · next head rest hdrop =>
      cases h
      have hhead : head = separator := by
        have := List.head?_dropWhile_not (· != separator) text.toList
        rw [hdrop] at this
        simpa using this
      have hparts := (List.takeWhile_append_dropWhile
        (p := (· != separator)) (l := text.toList)).symm
      rwa [hdrop, hhead, ← String.toList_ofList (l := rest),
        ← String.toList_ofList (l := text.toList.takeWhile _)] at hparts

theorem not_mem_of_cutAt? {separator : Char} {text front back : String}
    (h : cutAt? separator text = some (front, back)) :
    separator ∉ front.toList := by
  unfold cutAt? at h
  split at h
  · cases h
  · cases h
    intro hmem
    rw [String.toList_ofList] at hmem
    have hall := List.all_eq_true.mp
      (List.all_takeWhile (p := (· != separator)) (l := text.toList))
    simpa using hall separator hmem

end ListQuery.Text
