import Mathlib.Data.List.TakeWhile
import Mathlib.Tactic.SplitIfs
import ListQuery.Page
import ListQuery.Proofs.Numbers

/-!
# Integers at the start of a text

A page parameter starts with blanks, a sign and digits, and what follows the digits does not
count.  Signs and digits are octets of their own, so the text can always be cut around them.  A
number that 64 bits do not hold is too great for every page, at whatever step of its reading that
shows: the parameters are what they would be if integers had no bounds.
-/

namespace ListQuery

variable {char : Char} {digits : List Char}

/-! ## Octets of digits -/

theorem isDigit_iff :
    char.isDigit = true ↔ 48 ≤ char.val.toNat ∧ char.val.toNat ≤ 57 := by
  simp only [Char.isDigit, Bool.and_eq_true, decide_eq_true_eq, ge_iff_le,
    UInt32.le_iff_toNat_le]
  exact Iff.rfl

theorem isDigitOctet_ofNat_iff {value : Nat} (h : value < 256) :
    isDigitOctet (UInt8.ofNat value) = true ↔ 48 ≤ value ∧ value ≤ 57 := by
  have hvalue : (UInt8.ofNat value).toNat = value := UInt8.toNat_ofNat_of_lt' h
  simp only [isDigitOctet, Bool.and_eq_true, decide_eq_true_eq, UInt8.le_iff_toNat_le, hvalue]
  exact Iff.rfl

theorem exists_octet (char : Char) : ∃ first others,
    String.utf8EncodeChar char = first :: others ∧
      (isDigitOctet first = true ↔ char.isDigit = true) ∧
      (char.isDigit = true → others = []) := by
  simp only [isDigit_iff]
  unfold String.utf8EncodeChar
  simp only
  split_ifs with hascii
  · exact ⟨_, _, rfl, isDigitOctet_ofNat_iff (by omega), fun _ => rfl⟩
  all_goals
    refine ⟨_, _, rfl, ?_, fun hdigit => by omega⟩
    rw [isDigitOctet_ofNat_iff (by omega)]
    omega

theorem length_takeWhile_octets (chars : List Char) :
    ((Text.octets chars).takeWhile isDigitOctet).length =
      (chars.takeWhile Char.isDigit).length := by
  induction chars with
  | nil => rfl
  | cons char chars ih =>
      obtain ⟨first, others, hchar, hfirst, hothers⟩ := exists_octet char
      have hoctets : Text.octets (char :: chars) = first :: (others ++ Text.octets chars) := by
        simp [Text.octets, hchar]
      by_cases hdigit : char.isDigit = true
      · simp [hoctets, hfirst, hdigit, hothers hdigit, ih]
      · simp [hoctets, hfirst, hdigit]

theorem length_octets_of_isDigit (h : ∀ char ∈ digits, char.isDigit = true) :
    (Text.octets digits).length = digits.length := by
  induction digits with
  | nil => rfl
  | cons char digits ih =>
      obtain ⟨hchar, hdigits⟩ := List.forall_mem_cons.mp h
      obtain ⟨first, others, hoctets, -, hothers⟩ := exists_octet char
      simp [Text.octets, hoctets, hothers hchar, ← ih hdigits]

/-! ## Numbers of any size -/

def ofMagnitude (negative : Bool) (magnitude : Nat) : Int :=
  if negative then -magnitude else magnitude

variable {negative : Bool} {magnitude : Nat}

theorem signed?_eq_none_of_le {greater : Nat} (hle : magnitude ≤ greater)
    (h : signed? (ofMagnitude negative magnitude) = none) :
    signed? (ofMagnitude negative greater) = none := by
  unfold signed? ofMagnitude at h ⊢
  cases negative <;> simp at h ⊢ <;> omega

theorem eq_of_signed? {value found : Int} (h : signed? value = some found) : found = value := by
  unfold signed? at h
  split at h
  · exact (Option.some.inj h).symm
  · cases h

theorem le_ofDigitChars (digits : List Char) (magnitude : Nat) :
    magnitude ≤ Nat.ofDigitChars 10 digits magnitude := by
  rw [Nat.ofDigitChars_eq_ofDigitChars_zero]
  calc
    magnitude ≤ 10 ^ digits.length * magnitude := Nat.le_mul_of_pos_left _ (Nat.pow_pos (by decide))
    _ ≤ 10 ^ digits.length * magnitude + Nat.ofDigitChars 10 digits 0 := Nat.le_add_right _ _

theorem appendDigit?_ofMagnitude (hdigit : char.isDigit = true) :
    appendDigit? negative (ofMagnitude negative magnitude) char =
      signed? (ofMagnitude negative (10 * magnitude + (char.toNat - '0'.toNat))) := by
  have hshift : ofMagnitude negative magnitude * 10 = ofMagnitude negative (10 * magnitude) := by
    cases negative <;> (simp [ofMagnitude]; omega)
  have hdigit? : digit? char = some (char.toNat - '0'.toNat) := by simp [digit?, hdigit]
  unfold appendDigit?
  rw [hshift, hdigit?]
  cases hshifted : signed? (ofMagnitude negative (10 * magnitude)) with
  | none =>
      rw [signed?_eq_none_of_le (Nat.le_add_right _ _) hshifted]
      rfl
  | some shifted =>
      obtain rfl := eq_of_signed? hshifted
      have hsum : (if negative then
          ofMagnitude negative (10 * magnitude) - (char.toNat - '0'.toNat : Nat)
          else ofMagnitude negative (10 * magnitude) + (char.toNat - '0'.toNat : Nat)) =
          ofMagnitude negative (10 * magnitude + (char.toNat - '0'.toNat)) := by
        cases negative with
        | false => simp [ofMagnitude]
        | true =>
            simp only [ofMagnitude, if_true]
            omega
      exact congrArg signed? hsum

theorem foldlM_appendDigit? (hdigits : ∀ char ∈ digits, char.isDigit = true)
    (h : signed? (ofMagnitude negative magnitude) = some (ofMagnitude negative magnitude)) :
    digits.foldlM (appendDigit? negative) (ofMagnitude negative magnitude) =
      signed? (ofMagnitude negative (Nat.ofDigitChars 10 digits magnitude)) := by
  induction digits generalizing magnitude with
  | nil => exact h.symm
  | cons char digits ih =>
      obtain ⟨hchar, hrest⟩ := List.forall_mem_cons.mp hdigits
      rw [List.foldlM_cons, appendDigit?_ofMagnitude hchar, Nat.ofDigitChars_cons]
      cases hnext : signed? (ofMagnitude negative
          (10 * magnitude + (char.toNat - '0'.toNat))) with
      | none =>
          rw [signed?_eq_none_of_le (le_ofDigitChars digits _) hnext]
          rfl
      | some next =>
          obtain rfl := eq_of_signed? hnext
          exact ih hrest hnext

/-! ## Numerals -/

inductive Sign where
  | none
  | plus
  | minus
  deriving DecidableEq, Repr

def Sign.chars : Sign → List Char
  | .none => []
  | .plus => ['+']
  | .minus => ['-']

def Sign.ofChars : List Char → Sign
  | '-' :: _ => .minus
  | '+' :: _ => .plus
  | _ => .none

theorem Sign.exists_append (chars : List Char) : ∃ unsigned,
    chars = (Sign.ofChars chars).chars ++ unsigned ∧
      signLength chars = (Text.octets (Sign.ofChars chars).chars).length := by
  unfold Sign.ofChars
  split
  · next unsigned => exact ⟨unsigned, rfl, rfl⟩
  · next unsigned => exact ⟨unsigned, rfl, rfl⟩
  · next hminus hplus =>
      refine ⟨chars, rfl, ?_⟩
      unfold signLength
      split
      · exact absurd rfl (hminus _)
      · exact absurd rfl (hplus _)
      · rfl

structure Numeral where
  sign : Sign
  digits : List Char
  areDigits : AreDigits digits

namespace Numeral

def chars (numeral : Numeral) : List Char := numeral.sign.chars ++ numeral.digits

/-- The number that is written, however many digits it has. -/
def value (numeral : Numeral) : Int :=
  ofMagnitude (numeral.sign = .minus) (Nat.ofDigitChars 10 numeral.digits 0)

/-- The text starts with the numeral behind blanks, and no digit follows it. -/
def Leads (numeral : Numeral) (text : String) : Prop :=
  ∃ blanks rest, text.toList = blanks ++ (numeral.chars ++ rest) ∧
    (∀ char ∈ blanks, Text.isBlank char = true) ∧ ∀ char ∈ rest.head?, char.isDigit = false

variable {numeral : Numeral} {text : String} {rest : List Char}

theorem readSigned?_of_isDigit {others : List Char} (h : char.isDigit = true) :
    readSigned? (char :: others) = (char :: others).foldlM (appendDigit? false) 0 := by
  obtain ⟨hminus, hplus⟩ := ne_sign_of_isDigit h
  unfold readSigned?
  split
  next negative digits hmatch =>
    split at hmatch
    · next heq => exact absurd (List.cons_eq_cons.mp heq).1 hminus
    · next heq => exact absurd (List.cons_eq_cons.mp heq).1 hplus
    · cases hmatch
      rfl

theorem readSigned?_chars (numeral : Numeral) :
    readSigned? numeral.chars = signed? numeral.value := by
  obtain ⟨sign, digits, hdigits⟩ := numeral
  have hread (negative : Bool) : digits.foldlM (appendDigit? negative) 0 =
      signed? (ofMagnitude negative (Nat.ofDigitChars 10 digits 0)) := by
    have hzero : ofMagnitude negative 0 = 0 := by cases negative <;> rfl
    rw [← foldlM_appendDigit? hdigits.isDigit (by rw [hzero]; rfl), hzero]
  have hempty : digits.isEmpty = false := by simpa using hdigits.ne_nil
  cases sign with
  | none =>
      obtain ⟨char, others, rfl, hchar⟩ := hdigits.exists_cons
      exact (readSigned?_of_isDigit hchar).trans (hread false)
  | plus => simp [readSigned?, chars, Sign.chars, hempty, hread, value]
  | minus => simp [readSigned?, chars, Sign.chars, hempty, hread, value]

/-! ## Texts -/

theorem sign_ofChars_append (numeral : Numeral) (rest : List Char) :
    Sign.ofChars (numeral.chars ++ rest) = numeral.sign := by
  obtain ⟨char, others, hdigits, hchar⟩ := numeral.areDigits.exists_cons
  obtain ⟨hminus, hplus⟩ := ne_sign_of_isDigit hchar
  cases hsign : numeral.sign with
  | none => simp [chars, hsign, hdigits, Sign.chars, Sign.ofChars, hminus, hplus]
  | plus => simp [chars, hsign, Sign.chars, Sign.ofChars]
  | minus => simp [chars, hsign, Sign.chars, Sign.ofChars]

theorem signLength_append (numeral : Numeral) (rest : List Char) :
    signLength (numeral.chars ++ rest) = (Text.octets numeral.sign.chars).length := by
  obtain ⟨-, -, hlength⟩ := Sign.exists_append (numeral.chars ++ rest)
  rw [hlength, sign_ofChars_append]

theorem isBlank_of_isDigit (h : char.isDigit = true) : Text.isBlank char = false := by
  have hvalue : 48 ≤ char.toNat ∧ char.toNat ≤ 57 := isDigit_iff.mp h
  simp [Text.isBlank, Text.inRanges, Text.blankRanges]
  omega

theorem exists_first (numeral : Numeral) :
    ∃ char others, numeral.chars = char :: others ∧ Text.isBlank char = false := by
  obtain ⟨char, others, hdigits, hchar⟩ := numeral.areDigits.exists_cons
  cases hsign : numeral.sign with
  | none =>
      exact ⟨char, others, by simp [chars, hsign, Sign.chars, hdigits], isBlank_of_isDigit hchar⟩
  | plus => exact ⟨'+', numeral.digits, by simp [chars, hsign, Sign.chars], by decide⟩
  | minus => exact ⟨'-', numeral.digits, by simp [chars, hsign, Sign.chars], by decide⟩

theorem trimLead_of_blanks {blanks : List Char}
    (hblanks : ∀ char ∈ blanks, Text.isBlank char = true) :
    Text.trimLead (blanks ++ (numeral.chars ++ rest)) = numeral.chars ++ rest := by
  obtain ⟨char, others, hchars, hchar⟩ := numeral.exists_first
  rw [Text.trimLead, List.dropWhile_append_of_pos hblanks, hchars, List.cons_append,
    List.dropWhile_cons_of_neg (by simp [hchar])]

theorem Leads.readLeading?_eq (h : numeral.Leads text) :
    readLeading? text = some (signed? numeral.value) := by
  obtain ⟨blanks, rest, htext, hblanks, hrest⟩ := h
  have hchars : Text.trimLead text.toList = numeral.chars ++ rest := by
    rw [htext, trimLead_of_blanks hblanks]
  have hsign := signLength_append numeral rest
  have hunsigned : Text.sliceAt? (numeral.chars ++ rest) (signLength (numeral.chars ++ rest)) =
      some (numeral.sign.chars, numeral.digits ++ rest) := by
    rw [hsign, chars, List.append_assoc]
    exact Text.sliceAt?_octets _ _
  have hdigits := Text.takeWhile_append_of_head? numeral.areDigits.isDigit hrest
  have hcount : ((Text.octets (numeral.digits ++ rest)).takeWhile isDigitOctet).length =
      (Text.octets numeral.digits).length := by
    rw [length_takeWhile_octets, hdigits, length_octets_of_isDigit numeral.areDigits.isDigit]
  have hnumeral : Text.sliceAt? (numeral.chars ++ rest)
      (signLength (numeral.chars ++ rest) + (Text.octets numeral.digits).length) =
      some (numeral.chars, rest) := by
    have hlength : (Text.octets numeral.chars).length =
        (Text.octets numeral.sign.chars).length + (Text.octets numeral.digits).length := by
      simp [Text.octets, chars]
    rw [hsign, ← hlength]
    exact Text.sliceAt?_octets _ _
  have hsome : (Text.octets numeral.digits).length ≠ 0 := by
    rw [length_octets_of_isDigit numeral.areDigits.isDigit]
    simpa using numeral.areDigits.ne_nil
  simp only [readLeading?, hchars, hunsigned, hcount, hsome, hnumeral,
    numeral.readSigned?_chars, Option.bind_eq_bind, Option.bind_some]
  rfl

theorem exists_leads_or (text : String) :
    (∃ numeral : Numeral, numeral.Leads text) ∨ readLeading? text = some none := by
  obtain ⟨unsigned, hchars, hlength⟩ := Sign.exists_append (Text.trimLead text.toList)
  generalize Sign.ofChars (Text.trimLead text.toList) = sign at hchars hlength
  by_cases hnone : unsigned.takeWhile Char.isDigit = []
  · refine .inr ?_
    have hslice : Text.sliceAt? (Text.trimLead text.toList)
        (signLength (Text.trimLead text.toList)) = some (sign.chars, unsigned) := by
      rw [hlength, hchars]
      exact Text.sliceAt?_octets _ _
    have hcount : ((Text.octets unsigned).takeWhile isDigitOctet).length = 0 := by
      rw [length_takeWhile_octets, hnone, List.length_nil]
    simp only [readLeading?, hslice, hcount, Option.bind_eq_bind, Option.bind_some]
    rfl
  · let numeral : Numeral :=
      ⟨sign, unsigned.takeWhile Char.isDigit, hnone, fun _ => List.mem_takeWhile_imp⟩
    refine .inl ⟨numeral, text.toList.takeWhile Text.isBlank, unsigned.dropWhile Char.isDigit,
      ?_, fun _ => List.mem_takeWhile_imp, ?_⟩
    · have hnumeral : numeral.chars ++ unsigned.dropWhile Char.isDigit =
          Text.trimLead text.toList := by
        rw [hchars, chars, List.append_assoc, List.takeWhile_append_dropWhile]
      rw [hnumeral]
      exact List.takeWhile_append_dropWhile.symm
    · intro char hchar
      have hfirst := List.head?_dropWhile_not Char.isDigit unsigned
      rw [Option.mem_def.mp hchar] at hfirst
      exact hfirst

theorem Leads.unique {first second : Numeral} (hfirst : first.Leads text)
    (hsecond : second.Leads text) : first = second := by
  obtain ⟨blanks, rest, htext, hblanks, hrest⟩ := hfirst
  obtain ⟨otherBlanks, otherRest, hother, hotherBlanks, hotherRest⟩ := hsecond
  have hchars : first.chars ++ rest = second.chars ++ otherRest := by
    rw [← trimLead_of_blanks hblanks, ← htext, hother, trimLead_of_blanks hotherBlanks]
  have hsign : first.sign = second.sign := by
    rw [← sign_ofChars_append first rest, hchars, sign_ofChars_append]
  rw [chars, chars, hsign, List.append_assoc, List.append_assoc, List.append_cancel_left_eq]
    at hchars
  have hdigits : first.digits = second.digits := by
    rw [← Text.takeWhile_append_of_head? first.areDigits.isDigit hrest, hchars,
      Text.takeWhile_append_of_head? second.areDigits.isDigit hotherRest]
  cases first
  cases second
  simp_all

end Numeral

/-! ## Parameters -/

theorem boundedParameter_of_signed {least greatest default : Nat} {text : String} {value : Int}
    (hgreatest : greatest < signedLimit) (h : readLeading? text = some (signed? value)) :
    boundedParameter least greatest default (some text) =
      if least ≤ value ∧ value ≤ greatest then value.toNat else default := by
  have hread : leadingInteger? text = signed? value := by simp [leadingInteger?, h]
  have hlimits : signedLimit ≤ unsignedLimit := by decide
  unfold boundedParameter
  simp only [Option.bind_some, hread]
  by_cases hrange : (least : Int) ≤ value ∧ value ≤ greatest
  · have hsigned : signed? value = some value := if_pos (by omega)
    have hunsigned : unsigned? value = some value.toNat := if_pos (by omega)
    have hbounds : decide (least ≤ value.toNat ∧ value.toNat ≤ greatest) = true := by
      simp only [decide_eq_true_eq]
      omega
    rw [hsigned, Option.bind_some, hunsigned, Option.filter_some, if_pos hbounds, if_pos hrange]
    rfl
  · have hnone : ((signed? value).bind unsigned?).filter
        (fun found => least ≤ found ∧ found ≤ greatest) = none := by
      rw [Option.filter_eq_none_iff]
      intro found hfound
      obtain ⟨_, hsigned, hunsigned⟩ := Option.bind_eq_some_iff.mp hfound
      obtain rfl := eq_of_signed? hsigned
      unfold unsigned? at hunsigned
      split at hunsigned
      · cases hunsigned
        simp only [decide_eq_true_eq]
        omega
      · cases hunsigned
    rw [hnone, if_neg hrange]
    rfl

theorem boundedParameter_of_none {least greatest default : Nat} {text : String}
    (h : readLeading? text = some none) :
    boundedParameter least greatest default (some text) = default := by
  simp [boundedParameter, leadingInteger?, h]

/-- The text of a parameter can be cut wherever that is tried.  It starts with one numeral at
most, whose number is the parameter where it is in range; in any other case the parameter has
its default. -/
theorem Page.parameters_of_text (text : String) :
    readLeading? text ≠ none ∧
      (∀ first second : Numeral, first.Leads text → second.Leads text → first = second) ∧
      (∀ numeral : Numeral, numeral.Leads text →
        parsePage (some text) = (if 1 ≤ numeral.value ∧ numeral.value ≤ greatestPage
          then numeral.value.toNat else 1) ∧
        parsePerPage (some text) = (if 2 ≤ numeral.value ∧ numeral.value ≤ 10000
          then numeral.value.toNat else 10)) ∧
      ((¬ ∃ numeral : Numeral, numeral.Leads text) →
        parsePage (some text) = 1 ∧ parsePerPage (some text) = 10) := by
  refine ⟨?_, fun _ _ => Numeral.Leads.unique, fun numeral hleads => ?_, fun hnone => ?_⟩
  · rcases Numeral.exists_leads_or text with ⟨numeral, hleads⟩ | hread
    · simp [hleads.readLeading?_eq]
    · simp [hread]
  · have hread := hleads.readLeading?_eq
    exact ⟨boundedParameter_of_signed (by decide) hread,
      boundedParameter_of_signed (by decide) hread⟩
  · have hread := (Numeral.exists_leads_or text).resolve_left hnone
    exact ⟨boundedParameter_of_none hread, boundedParameter_of_none hread⟩

theorem Page.parameters_of_zeros :
    let text := "\u2003\t+00000000000000000000042\u20ac7"
    let numeral : Numeral :=
      ⟨.plus, "00000000000000000000042".toList, by decide, List.all_eq_true.mp (by decide +kernel)⟩
    numeral.Leads text ∧ numeral.value = 42 ∧ parsePage (some text) = 42 ∧
      parsePerPage (some text) = 42 := by
  intro text numeral
  have hblanks : ∀ char ∈ ['\u2003', '\t'], Text.isBlank char = true :=
    List.all_eq_true.mp (by decide)
  have hrest : ∀ char ∈ ['\u20ac', '7'].head?, char.isDigit = false := by
    rintro char ⟨⟩
    rfl
  have hleads : numeral.Leads text := ⟨_, _, by decide +kernel, hblanks, hrest⟩
  have hvalue : numeral.value = 42 := by decide +kernel
  obtain ⟨-, -, hparameters, -⟩ := parameters_of_text text
  obtain ⟨hpage, hperPage⟩ := hparameters numeral hleads
  rw [hvalue] at hpage hperPage
  exact ⟨hleads, hvalue, hpage, hperPage⟩

end ListQuery
