import ListQuery.Json.Number
import ListQuery.Proofs.Cut

/-!
# Spelled numbers

The grammar of numbers: a whole part without leading zeros, and around it a minus, a fraction
and an exponent that may each be absent.  Reading takes just what the grammar has, so an integer
of 64 bits is read back from its decimal digits.
-/

namespace ListQuery

/-! ## Digits -/

structure AreDigits (chars : List Char) : Prop where
  ne_nil : chars ≠ []
  isDigit : ∀ char ∈ chars, char.isDigit = true

theorem AreDigits.exists_cons {digits : List Char} (h : AreDigits digits) :
    ∃ char others, digits = char :: others ∧ char.isDigit = true := by
  obtain ⟨char, others, rfl⟩ := List.exists_cons_of_ne_nil h.ne_nil
  exact ⟨char, others, rfl, h.isDigit char List.mem_cons_self⟩

theorem ne_sign_of_isDigit {char : Char} (h : char.isDigit = true) : char ≠ '-' ∧ char ≠ '+' := by
  constructor
  · rintro rfl
    revert h
    decide
  · rintro rfl
    revert h
    decide

/-! ## Grammar -/

namespace Literal

inductive FractionIs : List Char → List Char → Prop where
  | absent : FractionIs [] []
  | point {digits : List Char} (h : AreDigits digits) : FractionIs ('.' :: digits) digits

inductive ExponentIs : List Char → Option Int → Prop where
  | absent : ExponentIs [] none
  | bare {mark : Char} {digits : List Char} (hmark : mark = 'e' ∨ mark = 'E')
      (h : AreDigits digits) :
      ExponentIs (mark :: digits) (some (Nat.ofDigitChars 10 digits 0 : Int))
  | plus {mark : Char} {digits : List Char} (hmark : mark = 'e' ∨ mark = 'E')
      (h : AreDigits digits) :
      ExponentIs (mark :: '+' :: digits) (some (Nat.ofDigitChars 10 digits 0 : Int))
  | minus {mark : Char} {digits : List Char} (hmark : mark = 'e' ∨ mark = 'E')
      (h : AreDigits digits) :
      ExponentIs (mark :: '-' :: digits) (some (-(Nat.ofDigitChars 10 digits 0 : Int)))

/-- The characters spell the literal after its sign. -/
structure IsUnsigned (literal : Literal) (chars : List Char) : Prop where
  areDigits : AreDigits literal.whole
  leading : literal.whole.head? = some '0' → literal.whole = ['0']
  parts : ∃ fraction exponent, FractionIs fraction literal.fraction ∧
    ExponentIs exponent literal.exponent ∧ chars = literal.whole ++ (fraction ++ exponent)

def IsSpelled (literal : Literal) (chars : List Char) : Prop :=
  ∃ unsigned, literal.IsUnsigned unsigned ∧
    chars = if literal.negative then '-' :: unsigned else unsigned

/-! ## Parts -/

variable {chars digits rest : List Char} {exponent : Option Int} {literal : Literal}

theorem map_digits?_eq_some_iff {α : Type} {value : α} {change : List Char → α} :
    (digits? chars).map change = some value ↔ AreDigits chars ∧ change chars = value := by
  have hcheck : (chars.isEmpty || !chars.all Char.isDigit) = false ↔ AreDigits chars := by
    rw [Bool.or_eq_false_iff, Bool.not_eq_false', List.all_eq_true, List.isEmpty_eq_false_iff]
    exact ⟨fun ⟨hne, hdigits⟩ => ⟨hne, hdigits⟩, fun ⟨hne, hdigits⟩ => ⟨hne, hdigits⟩⟩
  rw [← hcheck, digits?]
  split
  · next hbad => simp [hbad]
  · next hgood => simp [hgood]

theorem ExponentIs.exponent?_eq (h : ExponentIs chars exponent) :
    exponent? chars = some exponent := by
  cases h with
  | absent => rfl
  | bare hmark hdigits =>
      obtain ⟨char, others, rfl, hchar⟩ := hdigits.exists_cons
      obtain ⟨hminus, hplus⟩ := ne_sign_of_isDigit hchar
      -- What starts with a digit starts with no sign.
      rw [exponent?, if_pos hmark]
      · exact map_digits?_eq_some_iff.mpr ⟨hdigits, rfl⟩
      · exact fun _ heq => hminus (List.cons_eq_cons.mp heq).1
      · exact fun _ heq => hplus (List.cons_eq_cons.mp heq).1
  | plus hmark hdigits =>
      rw [exponent?, if_pos hmark]
      exact map_digits?_eq_some_iff.mpr ⟨hdigits, rfl⟩
  | minus hmark hdigits =>
      rw [exponent?, if_pos hmark]
      exact map_digits?_eq_some_iff.mpr ⟨hdigits, rfl⟩

theorem exponent?_eq_some_iff : exponent? chars = some exponent ↔ ExponentIs chars exponent := by
  refine ⟨fun h => ?_, ExponentIs.exponent?_eq⟩
  unfold exponent? at h
  split at h
  · cases h
    exact .absent
  · split at h
    · next hmark =>
        split at h
        · obtain ⟨hdigits, rfl⟩ := map_digits?_eq_some_iff.mp h
          exact .minus hmark hdigits
        · obtain ⟨hdigits, rfl⟩ := map_digits?_eq_some_iff.mp h
          exact .plus hmark hdigits
        · obtain ⟨hdigits, rfl⟩ := map_digits?_eq_some_iff.mp h
          exact .bare hmark hdigits
    · cases h

theorem ExponentIs.isDigit_head (h : ExponentIs chars exponent) :
    ∀ char ∈ chars.head?, char.isDigit = false ∧ char ≠ '.' := by
  have hmarks {mark : Char} (hmark : mark = 'e' ∨ mark = 'E') :
      mark.isDigit = false ∧ mark ≠ '.' := by
    rcases hmark with rfl | rfl <;> decide
  cases h with
  | absent => simp
  | bare hmark _ => simpa using hmarks hmark
  | plus hmark _ => simpa using hmarks hmark
  | minus hmark _ => simpa using hmarks hmark

theorem fraction?_append {fraction : List Char} (hfraction : FractionIs fraction digits)
    (hrest : ExponentIs rest exponent) : fraction? (fraction ++ rest) = some (digits, rest) := by
  cases hfraction with
  | absent =>
      rw [List.nil_append]
      unfold fraction?
      split
      · exact absurd rfl (hrest.isDigit_head '.' rfl).2
      · rfl
  | point hdigits =>
      have hstop := fun char hchar => (hrest.isDigit_head char hchar).1
      have hempty : digits.isEmpty = false := by simpa using hdigits.ne_nil
      rw [List.cons_append, fraction?]
      simp only [Text.takeWhile_append_of_head? hdigits.isDigit hstop,
        Text.dropWhile_append_of_head? hdigits.isDigit hstop, hempty]
      rfl

theorem exists_fractionIs (h : fraction? chars = some (digits, rest)) :
    ∃ fraction, FractionIs fraction digits ∧ chars = fraction ++ rest := by
  unfold fraction? at h
  split at h
  · next others =>
      simp only at h
      split at h
      · cases h
      · next hsome =>
          cases h
          refine ⟨'.' :: others.takeWhile Char.isDigit, .point ⟨?_, ?_⟩, ?_⟩
          · simpa using hsome
          · exact fun _ => List.mem_takeWhile_imp
          · rw [List.cons_append, List.takeWhile_append_dropWhile]
  · cases h
    exact ⟨[], .absent, rfl⟩

theorem isDigit_head_append {fraction : List Char} (hfraction : FractionIs fraction digits)
    (hrest : ExponentIs rest exponent) :
    ∀ char ∈ (fraction ++ rest).head?, char.isDigit = false := by
  intro char hchar
  cases hfraction with
  | absent => exact (hrest.isDigit_head char hchar).1
  | point _ =>
      cases hchar
      rfl

/-! ## Literals -/

theorem leading_iff {whole : List Char} :
    (whole.head? != some '0' || decide (whole.length = 1)) = true ↔
      (whole.head? = some '0' → whole = ['0']) := by
  rw [Bool.or_eq_true, bne_iff_ne, decide_eq_true_eq, ← imp_iff_not_or]
  refine imp_congr_right fun hhead => ?_
  obtain ⟨others, rfl⟩ := List.head?_eq_some_iff.mp hhead
  simp

theorem unsigned?_eq_some_iff {negative : Bool} :
    unsigned? negative chars = some literal ↔
      literal.negative = negative ∧ literal.IsUnsigned chars := by
  constructor
  · intro h
    obtain ⟨_, hguard, h⟩ := Option.bind_eq_some_iff.mp h
    obtain ⟨⟨fraction, rest⟩, hfraction, h⟩ := Option.bind_eq_some_iff.mp h
    obtain ⟨exponent, hexponent, h⟩ := Option.bind_eq_some_iff.mp h
    cases h
    obtain ⟨spelled, hspelled, hrest⟩ := exists_fractionIs hfraction
    have hwhole : (!(chars.takeWhile Char.isDigit).isEmpty &&
        ((chars.takeWhile Char.isDigit).head? != some '0' ||
          decide ((chars.takeWhile Char.isDigit).length = 1))) = true := by
      by_contra hfails
      cases hguard.symm.trans (if_neg hfails)
    rw [Bool.and_eq_true, leading_iff] at hwhole
    refine ⟨rfl, ⟨⟨by simpa using hwhole.1, fun _ => List.mem_takeWhile_imp⟩, hwhole.2,
      spelled, rest, hspelled, exponent?_eq_some_iff.mp hexponent, ?_⟩⟩
    rw [← hrest, List.takeWhile_append_dropWhile]
  · rintro ⟨rfl, ⟨hwhole, hleading, fraction, exponent, hfraction, hexponent, rfl⟩⟩
    have hstop := isDigit_head_append hfraction hexponent
    have htake := Text.takeWhile_append_of_head? hwhole.isDigit hstop
    have hdrop := Text.dropWhile_append_of_head? hwhole.isDigit hstop
    refine Option.bind_eq_some_iff.mpr ⟨(), if_pos ?_, Option.bind_eq_some_iff.mpr
      ⟨(literal.fraction, exponent), ?_, Option.bind_eq_some_iff.mpr
        ⟨literal.exponent, hexponent.exponent?_eq, ?_⟩⟩⟩
    · rw [htake, Bool.and_eq_true, leading_iff]
      exact ⟨by simpa using hwhole.ne_nil, hleading⟩
    · rw [hdrop]
      exact fraction?_append hfraction hexponent
    · rw [htake]

theorem IsUnsigned.head_isDigit (h : literal.IsUnsigned chars) :
    ∃ char others, chars = char :: others ∧ char.isDigit = true := by
  obtain ⟨hwhole, -, fraction, exponent, -, -, hchars⟩ := h
  obtain ⟨char, others, hdigits, hchar⟩ := hwhole.exists_cons
  rw [hdigits] at hchars
  exact ⟨char, _, hchars, hchar⟩

/-- Reading takes just what the grammar has. -/
theorem ofChars?_eq_some_iff : ofChars? chars = some literal ↔ literal.IsSpelled chars := by
  unfold ofChars?
  split
  · next unsigned =>
      rw [unsigned?_eq_some_iff]
      constructor
      · rintro ⟨hnegative, hunsigned⟩
        exact ⟨unsigned, hunsigned, by simp [hnegative]⟩
      · rintro ⟨spelled, hunsigned, hchars⟩
        split at hchars
        · next hnegative =>
            obtain rfl := (List.cons_eq_cons.mp hchars).2
            exact ⟨hnegative, hunsigned⟩
        · obtain ⟨char, others, hspelled, hchar⟩ := hunsigned.head_isDigit
          have hminus := (List.cons_eq_cons.mp (hchars.trans hspelled)).1.symm
          exact absurd hminus (ne_sign_of_isDigit hchar).1
  · next hminus =>
      rw [unsigned?_eq_some_iff]
      constructor
      · rintro ⟨hnegative, hunsigned⟩
        exact ⟨chars, hunsigned, by simp [hnegative]⟩
      · rintro ⟨spelled, hunsigned, hchars⟩
        split at hchars
        · exact absurd hchars (hminus spelled)
        · next hnegative =>
            obtain rfl := hchars
            exact ⟨by simpa using hnegative, hunsigned⟩

end Literal

/-! ## Integers -/

theorem Number.ofChars?_eq_some_iff {chars : List Char} {number : Number} :
    ofChars? chars = some number ↔
      ∃ literal : Literal, literal.IsSpelled chars ∧ literal.number? = some number := by
  simp only [ofChars?, Option.bind_eq_bind, Option.bind_eq_some_iff, Literal.ofChars?_eq_some_iff]

theorem Number.ofChars?_eq_none_iff {chars : List Char} :
    ofChars? chars = none ↔
      ∀ literal : Literal, literal.IsSpelled chars → literal.number? = none := by
  simp only [ofChars?, Option.bind_eq_bind, Option.bind_eq_none_iff, Literal.ofChars?_eq_some_iff]

theorem toDigits_eq_of_head? (number : Nat)
    (h : (Nat.toDigits 10 number).head? = some '0') : Nat.toDigits 10 number = ['0'] := by
  induction number using Nat.strongRecOn with
  | ind number ih =>
      by_cases hsmall : number < 10
      · rw [Nat.toDigits_of_lt_base hsmall] at h ⊢
        simpa using h
      · have hle : 10 ≤ number := Nat.le_of_not_lt hsmall
        rw [Nat.toDigits_of_base_le (by decide) hle] at h
        have hne : Nat.toDigits 10 (number / 10) ≠ [] := Nat.toDigits_ne_nil
        rw [List.head?_append_of_ne_nil _ hne] at h
        have hdigits := ih (number / 10) (by omega) h
        have hzero : number / 10 = 0 := by
          rw [← Nat.ofDigitChars_ten_toDigits (n := number / 10), hdigits]
          rfl
        omega

def Literal.ofInt (value : Int) : Literal :=
  ⟨decide (value < 0), Nat.toDigits 10 value.natAbs, [], none⟩

theorem Literal.toList_toString (value : Int) : (toString value).toList =
    if (ofInt value).negative then '-' :: (ofInt value).whole else (ofInt value).whole := by
  rw [Int.toString_eq_repr]
  cases value with
  | ofNat magnitude => simp [Int.repr, ofInt]
  | negSucc magnitude => simp [Int.repr, ofInt, Int.negSucc_lt_zero]

theorem Literal.isSpelled_toString (value : Int) :
    (ofInt value).IsSpelled (toString value).toList := by
  refine ⟨(ofInt value).whole, ⟨⟨Nat.toDigits_ne_nil, fun char hchar => ?_⟩, ?_, ?_⟩,
    toList_toString value⟩
  · exact Nat.isDigit_of_mem_toDigits (by decide) (by decide) hchar
  · exact toDigits_eq_of_head? value.natAbs
  · exact ⟨[], [], .absent, .absent, by simp⟩

theorem Literal.number?_ofInt {value : Int} (hlow : -signedLimit ≤ value)
    (hhigh : value < unsignedLimit) : (ofInt value).number? = some (.integer value) := by
  unfold number?
  simp only [ofInt, isWhole, Nat.ofDigitChars_ten_toDigits, List.isEmpty_nil, Option.isNone_none]
  by_cases hnegative : value < 0
  · have hbounds : 0 < value.natAbs ∧ value.natAbs ≤ signedLimit := by omega
    have hvalue : -(value.natAbs : Int) = value := by omega
    rw [if_neg (by simp [hnegative]), if_pos (by simp [hnegative, hbounds]), hvalue]
  · have hbound : value.natAbs < unsignedLimit := by omega
    have hvalue : (value.natAbs : Int) = value := by omega
    rw [if_pos (by simp [hnegative, hbound]), hvalue]

theorem Number.ofChars?_toString {value : Int} (hlow : -signedLimit ≤ value)
    (hhigh : value < unsignedLimit) :
    ofChars? (toString value).toList = some (.integer value) :=
  ofChars?_eq_some_iff.mpr
    ⟨_, Literal.isSpelled_toString value, Literal.number?_ofInt hlow hhigh⟩

end ListQuery
