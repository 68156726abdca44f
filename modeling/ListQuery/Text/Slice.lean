/-!
# Slices of texts

A text is cut at an offset, which counts the octets of its UTF-8 form.  There is no cut inside of
a character or behind the end.
-/

namespace ListQuery.Text

def octets (chars : List Char) : List UInt8 := chars.flatMap String.utf8EncodeChar

def sliceAt? : List Char → Nat → Option (List Char × List Char)
  | chars, 0 => some ([], chars)
  | [], _ + 1 => none
  | char :: chars, offset + 1 =>
      if char.utf8Size ≤ offset + 1 then
        (sliceAt? chars (offset + 1 - char.utf8Size)).map fun (front, back) =>
          (char :: front, back)
      else none

/-- A text can be cut where the octets of some of its characters end. -/
theorem sliceAt?_octets (front back : List Char) :
    sliceAt? (front ++ back) (octets front).length = some (front, back) := by
  induction front with
  | nil =>
      unfold sliceAt?
      rfl
  | cons char front ih =>
      have hlength : (octets (char :: front)).length =
          char.utf8Size + (octets front).length := by
        simp [octets, String.length_utf8EncodeChar]
      obtain ⟨offset, hoffset⟩ : ∃ offset, (octets (char :: front)).length = offset + 1 :=
        ⟨_, (Nat.sub_add_cancel (by have := char.utf8Size_pos; omega)).symm⟩
      have hrest : offset + 1 - char.utf8Size = (octets front).length := by omega
      rw [hoffset, List.cons_append, sliceAt?, hrest, ih, if_pos (by omega)]
      rfl

example : sliceAt? "é1".toList 2 = some (['é'], ['1']) := by decide
example : sliceAt? "é1".toList 1 = none := by decide

end ListQuery.Text
