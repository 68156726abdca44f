/-!
# Blank space

A character is blank when it has the Unicode property `White_Space`, which holds of
twenty-five characters in ten ranges.  Blanks around a text are not part of it.
-/

namespace ListQuery.Text

def inRanges (ranges : List (Nat × Nat)) (char : Char) : Bool :=
  ranges.any fun (first, last) => first ≤ char.toNat && char.toNat ≤ last

def blankRanges : List (Nat × Nat) :=
  [(0x9, 0xD), (0x20, 0x20), (0x85, 0x85), (0xA0, 0xA0), (0x1680, 0x1680),
    (0x2000, 0x200A), (0x2028, 0x2029), (0x202F, 0x202F), (0x205F, 0x205F),
    (0x3000, 0x3000)]

def isBlank (char : Char) : Bool := inRanges blankRanges char

example : (blankRanges.map fun (first, last) => last + 1 - first).sum = 25 := by decide

def trimLead (chars : List Char) : List Char := chars.dropWhile isBlank

def trim (text : String) : String :=
  String.ofList (trimLead (trimLead text.toList).reverse).reverse

theorem isBlank_of_isWhitespace {char : Char} (h : char.isWhitespace = true) :
    isBlank char = true := by
  simp only [Char.isWhitespace, Bool.or_eq_true, decide_eq_true_eq] at h
  rcases h with ((h | h) | h) | h <;> subst h <;> decide

end ListQuery.Text
