import ListQuery.Proofs.Binding
import ListQuery.Proofs.Entries
import ListQuery.Proofs.Grammar
import ListQuery.Proofs.LeadingInteger
import ListQuery.Proofs.Spelling

/-!
# Integers in filters

An integer of a payload is carried as itself where a signed integer of 64 bits holds it.  Where
none does the predicate has a double, so that two integers may become one; a piece of a text that
is no number to the reader of documents stays a text.
-/

namespace ListQuery

/-! ## Integer literals -/

/-- An integer as it is spelled: digits, which may follow a minus.  The negative zero is a
double. -/
structure IntegerLiteral where
  negative : Bool
  digits : List Char
  areDigits : AreDigits digits
  not_negative_zero : negative = true → digits ≠ ['0']

namespace IntegerLiteral

variable (literal : IntegerLiteral)

def chars : List Char := if literal.negative then '-' :: literal.digits else literal.digits

def magnitude : Nat := Nat.ofDigitChars 10 literal.digits 0

def value : Int := ofMagnitude literal.negative literal.magnitude

def IsPadded : Prop := literal.digits.head? = some '0' ∧ literal.digits ≠ ['0']

def whole : Literal := ⟨literal.negative, literal.digits, [], none⟩

variable {literal}

theorem exists_digit (literal : IntegerLiteral) :
    ∃ char others, literal.digits = char :: others ∧ char.isDigit = true :=
  literal.areDigits.exists_cons

theorem isSpelled_whole (h : ¬ literal.IsPadded) : literal.whole.IsSpelled literal.chars := by
  refine ⟨literal.digits, ⟨literal.areDigits, fun hhead => ?_, ?_⟩, rfl⟩
  · exact Classical.not_not.mp fun hne => h ⟨hhead, hne⟩
  · exact ⟨[], [], .absent, .absent, by simp [whole]⟩

theorem unsigned_eq {other : Literal} {unsigned : List Char} (h : other.IsUnsigned unsigned)
    (hchars : literal.chars = if other.negative then '-' :: unsigned else unsigned) :
    unsigned = literal.digits := by
  obtain ⟨first, rest, hdigits, hfirst⟩ := literal.exists_digit
  obtain ⟨char, others, hunsigned, hchar⟩ := h.head_isDigit
  have hminus := (ne_sign_of_isDigit hfirst).1
  have hother := (ne_sign_of_isDigit hchar).1
  unfold chars at hchars
  split at hchars <;> split at hchars
  · exact (List.cons_eq_cons.mp hchars).2.symm
  · rw [hunsigned] at hchars
    exact absurd (List.cons_eq_cons.mp hchars).1.symm hother
  · rw [hdigits] at hchars
    exact absurd (List.cons_eq_cons.mp hchars).1 hminus
  · exact hchars.symm

theorem ofChars?_of_isPadded (h : literal.IsPadded) : Number.ofChars? literal.chars = none := by
  rw [Number.ofChars?_eq_none_iff]
  rintro other ⟨unsigned, hunsigned, hchars⟩
  obtain ⟨hhead, hne⟩ := h
  obtain rfl := unsigned_eq hunsigned hchars
  obtain ⟨hwhole, hleading, fraction, exponent, hfraction, hexponent, hparts⟩ := hunsigned
  obtain ⟨char, others, hcons, -⟩ := hwhole.exists_cons
  have hzero : other.whole = ['0'] := by
    apply hleading
    rwa [hparts, hcons, List.cons_append, List.head?_cons, ← List.head?_cons, ← hcons] at hhead
  rw [hzero, List.singleton_append] at hparts
  cases hrest : fraction ++ exponent with
  | nil => exact absurd (hparts.trans (by rw [hrest])) hne
  | cons second rest =>
      have hdigit : second.isDigit = true :=
        literal.areDigits.isDigit second (by simp [hparts, hrest])
      have hstop := Literal.isDigit_head_append hfraction hexponent second (by simp [hrest])
      rw [hdigit] at hstop
      cases hstop

theorem magnitude_pos (h : ¬ literal.IsPadded) (hnegative : literal.negative = true) :
    0 < literal.magnitude := by
  obtain ⟨char, others, hdigits, hchar⟩ := literal.exists_digit
  have hnotzero : char ≠ '0' := by
    rintro rfl
    exact h ⟨by rw [hdigits]; rfl, literal.not_negative_zero hnegative⟩
  have hpositive : 0 < char.toNat - '0'.toNat := by
    have hlow := (isDigit_iff.mp hchar).1
    have hne : char.val.toNat ≠ 48 := fun heq => hnotzero (Char.ext (UInt32.toNat_inj.mp heq))
    have hcode : char.toNat = char.val.toNat := rfl
    have hzero : '0'.toNat = 48 := rfl
    omega
  rw [magnitude, hdigits, Nat.ofDigitChars_cons]
  calc
    0 < 10 * 0 + (char.toNat - '0'.toNat) := by omega
    _ ≤ Nat.ofDigitChars 10 others (10 * 0 + (char.toNat - '0'.toNat)) := le_ofDigitChars others _

/-- An integer of 64 bits, signed or not, is read as itself, and any other one as a double, if it
is read at all. -/
theorem ofChars?_of_not_isPadded (h : ¬ literal.IsPadded) :
    Number.ofChars? literal.chars =
      if -signedLimit ≤ literal.value ∧ literal.value < unsignedLimit then
        some (.integer literal.value)
      else literal.whole.double?.map .double := by
  have hspelled := Literal.ofChars?_eq_some_iff.mpr (isSpelled_whole h)
  have hnumber : Number.ofChars? literal.chars = literal.whole.number? := by
    simp [Number.ofChars?, hspelled]
  have hmagnitude : Nat.ofDigitChars 10 literal.whole.whole 0 = literal.magnitude := rfl
  have hwhole : literal.whole.isWhole = true := rfl
  have hsign : literal.whole.negative = literal.negative := rfl
  rw [hnumber, Literal.number?]
  simp only [hmagnitude, hwhole, hsign]
  -- The sign decides which of the two bounds the magnitude has to keep.
  by_cases hnegative : literal.negative = true
  · have hvalue : literal.value = -literal.magnitude := by simp [value, ofMagnitude, hnegative]
    have hpositive := magnitude_pos h hnegative
    by_cases hfits : literal.magnitude ≤ signedLimit
    · rw [if_neg (by simp [hnegative]), if_pos (by simp [hnegative, hpositive, hfits]),
        if_pos (by omega), hvalue]
    · rw [if_neg (by simp [hnegative]), if_neg (by simp [hfits]), if_neg (by omega)]
  · have hvalue : literal.value = literal.magnitude := by simp [value, ofMagnitude, hnegative]
    by_cases hfits : literal.magnitude < unsignedLimit
    · rw [if_pos (by simp [hnegative, hfits]), if_pos (by omega), hvalue]
    · rw [if_neg (by simp [hfits]), if_neg (by simp [hnegative]), if_neg (by omega)]

end IntegerLiteral

/-! ## Doubles -/

theorem Double.exponentOf_le {numerator : Nat} (hne : numerator ≠ 0)
    (h : numerator < unsignedLimit) : exponentOf numerator 1 ≤ 11 := by
  have hlog : numerator.log2 < 64 := (Nat.log2_lt hne).mpr h
  have hone : Nat.log2 1 = 0 := by decide
  have hleast : leastExponent = -1074 := rfl
  simp only [exponentOf, hone]
  split <;> omega

theorem Double.exists_ofRatio? {numerator : Nat} (h : numerator < unsignedLimit) :
    ∃ double, ofRatio? false numerator 1 = some double := by
  unfold ofRatio?
  split
  · exact ⟨_, rfl⟩
  · next hne =>
      have hexponent := exponentOf_le hne h
      have hgreatest : greatestExponent = 971 := rfl
      simp only
      split
      · exact ⟨_, if_pos (by simp only [hgreatest]; omega)⟩
      · exact ⟨_, if_pos (by simp only [hgreatest]; omega)⟩

/-! ## Carried integers -/

namespace IntegerLiteral

/-- The scalar that a literal is carried as where it is read as a number: the integer itself, if a
signed one of 64 bits can be as great or as small, and a double otherwise. -/
inductive IsCarried (literal : IntegerLiteral) : Scalar → Prop where
  | exact (hlow : -signedLimit ≤ literal.value) (hhigh : literal.value < signedLimit) :
      IsCarried literal (.int literal.value)
  | nearest {double : Double} (hlow : signedLimit ≤ literal.value)
      (hhigh : literal.value < unsignedLimit)
      (h : Double.ofRatio? false literal.value.toNat 1 = some double) :
      IsCarried literal (.float double)
  | read {double : Double}
      (hbeyond : literal.value < -signedLimit ∨ unsignedLimit ≤ literal.value)
      (h : literal.whole.double? = some double) : IsCarried literal (.float double)

/-- The scalar that a literal is carried as where it is a piece of a text: that of the number, or
the text itself where it is padded or too great for a double. -/
inductive IsCarriedInText (literal : IntegerLiteral) : Scalar → Prop where
  | number {scalar : Scalar} (hplain : ¬ literal.IsPadded) (h : literal.IsCarried scalar) :
      IsCarriedInText literal scalar
  | padded (h : literal.IsPadded) :
      IsCarriedInText literal (.text (String.ofList literal.chars))
  | boundless (hbeyond : literal.value < -signedLimit ∨ unsignedLimit ≤ literal.value)
      (h : literal.whole.double? = none) :
      IsCarriedInText literal (.text (String.ofList literal.chars))

variable {literal : IntegerLiteral}

theorem isCarried_ofNumber {number : Number}
    (h : Number.ofChars? literal.chars = some number) :
    ¬ literal.IsPadded ∧ literal.IsCarried (.ofNumber number) := by
  have hplain : ¬ literal.IsPadded := by
    intro hpadded
    rw [ofChars?_of_isPadded hpadded] at h
    cases h
  refine ⟨hplain, ?_⟩
  rw [ofChars?_of_not_isPadded hplain] at h
  split at h
  · next hfits =>
      cases h
      by_cases hsigned : literal.value < signedLimit
      · rw [Scalar.ofNumber, if_pos hsigned]
        exact .exact hfits.1 hsigned
      · obtain ⟨double, hdouble⟩ := @Double.exists_ofRatio? literal.value.toNat (by omega)
        rw [Scalar.ofNumber, if_neg hsigned, hdouble]
        exact .nearest (by omega) hfits.2 hdouble
  · next hbeyond =>
      obtain ⟨double, hdouble, rfl⟩ := Option.map_eq_some_iff.mp h
      exact .read (by omega) hdouble

theorem isCarriedInText_ofPiece (literal : IntegerLiteral) :
    literal.IsCarriedInText (.ofPiece (String.ofList literal.chars)) := by
  unfold Scalar.ofPiece
  rw [String.toList_ofList]
  cases hread : Number.ofChars? literal.chars with
  | some number =>
      obtain ⟨hplain, hcarried⟩ := isCarried_ofNumber hread
      exact .number hplain hcarried
  | none =>
      by_cases hpadded : literal.IsPadded
      · exact .padded hpadded
      · rw [ofChars?_of_not_isPadded hpadded] at hread
        split at hread
        · cases hread
        · next hbeyond => exact .boundless (by omega) (Option.map_eq_none_iff.mp hread)

theorem chars_ne_cons (literal : IntegerLiteral) {first : Char} (hdigit : first.isDigit = false)
    (hminus : first ≠ '-') (rest : List Char) : literal.chars ≠ first :: rest := by
  intro hchars
  obtain ⟨char, others, hdigits, hchar⟩ := literal.exists_digit
  unfold chars at hchars
  split at hchars
  · exact hminus (List.cons_eq_cons.mp hchars).1.symm
  · rw [hdigits] at hchars
    obtain ⟨rfl, -⟩ := List.cons_eq_cons.mp hchars
    rw [hdigit] at hchar
    cases hchar

theorem ofWord?_chars (literal : IntegerLiteral) :
    Json.Token.ofWord? literal.chars = (Number.ofChars? literal.chars).map .number := by
  have hnull : literal.chars ≠ "null".toList :=
    literal.chars_ne_cons (by decide) (by decide) ['u', 'l', 'l']
  have htrue : literal.chars ≠ "true".toList :=
    literal.chars_ne_cons (by decide) (by decide) ['r', 'u', 'e']
  have hfalse : literal.chars ≠ "false".toList :=
    literal.chars_ne_cons (by decide) (by decide) ['a', 'l', 's', 'e']
  rw [Json.Token.ofWord?, if_neg hnull, if_neg htrue, if_neg hfalse]

end IntegerLiteral

/-! ## Carried values -/

/-- The scalar that a spelled value is carried as.  What a word is carried as is said of integers
only. -/
inductive Json.Spelling.IsCarried : Spelling → Scalar → Prop where
  | word {chars : List Char} {scalar : Scalar}
      (h : ∀ literal : IntegerLiteral, literal.chars = chars →
        ¬ literal.IsPadded ∧ literal.IsCarried scalar) : IsCarried (.word chars) scalar
  | text (value : String) : IsCarried (.text value) (.text value)

/-- The filter carries the integers of a spelled value: that of a plain value, those of the items
of an array, and those among the pieces of a text that is cut at the separators of a list. -/
inductive Filter.Carries : Filter → Json.Spelling → Prop where
  | null {test : NullTest} {chars : List Char} (h : Json.Token.ofWord? chars = some .null) :
      Carries (.null test) (.word chars)
  | plain {comparison : Comparison} {spelling : Json.Spelling} {scalar : Scalar}
      (h : spelling.IsCarried scalar) : Carries (.compare comparison scalar) spelling
  | pattern {comparison : Comparison} {pattern text : String} :
      Carries (.compare comparison (.text text)) (.text pattern)
  | items {test : SetTest} {items : List Json.Spelling} {values : List Scalar}
      (h : List.Forall₂ Json.Spelling.IsCarried items values) :
      Carries (.set test values) (.array items)
  | pieces {test : SetTest} {pieces : List String} {values : List Scalar} (hne : pieces ≠ [])
      (hpieces : ∀ piece ∈ pieces, test.separator ∉ piece.toList)
      (h : List.Forall₂ (fun piece scalar => ∀ literal : IntegerLiteral,
        String.ofList literal.chars = piece → literal.IsCarriedInText scalar) pieces values) :
      Carries (.set test values) (.text (test.separator.toString.intercalate pieces))

theorem forall₂_of_forall₂ {α β γ : Type} {first : α → β → Prop} {second : β → γ → Prop}
    {whole : α → γ → Prop} (h : ∀ a b c, first a b → second b c → whole a c)
    {left : List α} {middle : List β} {right : List γ} (hfirst : List.Forall₂ first left middle)
    (hsecond : List.Forall₂ second middle right) : List.Forall₂ whole left right := by
  induction hfirst generalizing right with
  | nil =>
      cases hsecond
      exact .nil
  | cons hhead _ ih =>
      cases hsecond with
      | cons hnext hrest => exact .cons (h _ _ _ hhead hnext) (ih hrest)

theorem Json.Spelling.Reads.isCarried {spelling : Spelling} {value : Json} {scalar : Scalar}
    (h : spelling.Reads value) (hspells : value.Spells scalar) : spelling.IsCarried scalar := by
  cases hspells with
  | bool value =>
      cases h with
      | bool hword =>
          refine .word ?_
          rintro literal rfl
          rw [IntegerLiteral.ofWord?_chars] at hword
          obtain ⟨_, -, ⟨⟩⟩ := Option.map_eq_some_iff.mp hword
  | number number =>
      cases h with
      | number hword =>
          refine .word ?_
          rintro literal rfl
          rw [IntegerLiteral.ofWord?_chars] at hword
          obtain ⟨_, hread, ⟨⟩⟩ := Option.map_eq_some_iff.mp hword
          exact IntegerLiteral.isCarried_ofNumber hread
  | text value =>
      cases h
      exact .text value

theorem Filter.carries_of_isRead {ending : String} {value : Json} {filter : Filter}
    {spelling : Json.Spelling} (hread : IsRead ending value filter) (h : spelling.Reads value) :
    filter.Carries spelling := by
  cases hread with
  | isNull =>
      cases h with
      | null hword => exact .null hword
  | isNotNull =>
      cases h with
      | null hword => exact .null hword
  | test _ htakes =>
      cases htakes with
      | scalar _ hscalar => exact .plain (h.isCarried hscalar)
      | pattern _ =>
          cases h
          exact .pattern
      | @pieces test pieces hne hpieces _ =>
          cases h
          refine .pieces hne hpieces ?_
          rw [List.forall₂_map_right_iff, List.forall₂_same]
          rintro piece - literal rfl
          exact literal.isCarriedInText_ofPiece
      | items hitems _ =>
          cases h with
          | array hspelled =>
              refine .items (forall₂_of_forall₂ ?_ hspelled hitems)
              exact fun _ _ _ hreads hspells => hreads.isCarried hspells

/-! ## Bound values -/

def Filter.scalars : Filter → List Scalar
  | .null _ => []
  | .compare _ value => [value]
  | .set _ values => values

theorem Filter.bounds_eq {filter : Filter} (h : filter.IsWellShaped) (hne : filter.scalars ≠ []) :
    filter.bounds = filter.scalars.map .scalar := by
  cases filter with
  | null test => exact absurd rfl hne
  | compare comparison value =>
      cases comparison with
      | like =>
          obtain ⟨pattern, rfl, -⟩ := h
          rfl
      | notLike =>
          obtain ⟨pattern, rfl, -⟩ := h
          rfl
      | _ => rfl
  | set test values =>
      have hsome : values.isEmpty = false := by simpa [scalars] using hne
      cases hrange : test.isRange with
      | true => simp [bounds, scalars, hrange, h hrange]
      | false => simp [bounds, scalars, hrange, hsome]

/-! ## Conditions -/

namespace Condition

variable {catalog : Catalog} {model : Model}

/-- The predicate is made from a pair as it is spelled, carries the integers of its value, and
has what it carries bound. -/
structure IsOfSpelled (catalog : Catalog) (model : Model) (pair : String × Json.Spelling)
    (predicate : Predicate) : Prop where
  made : ∃ value, pair.2.Reads value ∧
    Predicate.ofPair catalog model pair.1 value = .ok predicate
  carries : predicate.filter.Carries pair.2
  bounds_eq : predicate.filter.scalars ≠ [] →
    predicate.filter.bounds = predicate.filter.scalars.map .scalar

theorem isOfSpelled_of_ofPair {pair : String × Json.Spelling} {field : String × Json}
    {predicate : Predicate} (hread : Json.ReadsField pair field)
    (h : Predicate.ofPair catalog model field.1 field.2 = .ok predicate) :
    IsOfSpelled catalog model pair predicate := by
  obtain ⟨hkey, hvalue⟩ := hread
  obtain ⟨_, -, -, htells⟩ := Reading.exists_tells h
  exact ⟨⟨field.2, hvalue, hkey ▸ h⟩, Filter.carries_of_isRead htells.isRead hvalue,
    Filter.bounds_eq (Predicate.isWellShaped_of_ofPair h)⟩

inductive SpelledAs (catalog : Catalog) (model : Model) : Json.Spelling → Condition → Prop where
  | array {items : List Json.Spelling} {members : List Condition}
      (h : List.Forall₂ (SpelledAs catalog model) items members) :
      SpelledAs catalog model (.array items) (.group members)
  | object {members : List (String × Json.Spelling)} {predicates : List Predicate}
      (h : List.Forall₂ (IsOfSpelled catalog model) (Json.fieldsOf members) predicates) :
      SpelledAs catalog model (.object members) (.group (predicates.map .predicate))
  | null {chars : List Char} (h : Json.Token.ofWord? chars = some .null) :
      SpelledAs catalog model (.word chars) (.group [])

mutual

theorem spelledAs_of_mirrors : ∀ (spelling : Json.Spelling) {document : Json}
    {condition : Condition}, spelling.Reads document → Mirrors catalog model document condition →
    SpelledAs catalog model spelling condition
  | .array items, document, condition, hread, h => by
      cases hread with
      | array hitems =>
          cases h with
          | array hmembers => exact .array (spelledAs_of_forall₂ items hitems hmembers)
  | .object members, document, condition, hread, h => by
      cases hread with
      | object hkeys hreads =>
          cases h with
          | object hpairs =>
              have hfields := Json.forall₂_fieldsOf (Json.Spelling.ReadsAll.forall₂ ⟨hkeys, hreads⟩)
              refine .object (forall₂_of_forall₂ ?_ hfields hpairs)
              exact fun _ _ _ hfield hmade => isOfSpelled_of_ofPair hfield hmade
  | .word chars, document, condition, hread, h => by
      cases hread with
      | null hword =>
          cases h
          exact .null hword
      | bool _ => cases h
      | number _ => cases h
  | .text value, document, condition, hread, h => by
      cases hread
      cases h

theorem spelledAs_of_forall₂ : ∀ (items : List Json.Spelling) {documents : List Json}
    {members : List Condition}, List.Forall₂ Json.Spelling.Reads items documents →
    List.Forall₂ (Mirrors catalog model) documents members →
    List.Forall₂ (SpelledAs catalog model) items members
  | [], documents, members, hread, h => by
      cases hread
      cases h
      exact .nil
  | item :: items, documents, members, hread, h => by
      cases hread with
      | cons hitem hitems =>
          cases h with
          | cons hfirst hrest =>
              exact .cons (spelledAs_of_mirrors item hitem hfirst)
                (spelledAs_of_forall₂ items hitems hrest)

end

/-- An accepted payload is spelled by all that is left of it, and its condition is this spelling
node by node.  Each predicate carries the integers of its field, exactly where signed integers of
64 bits reach and as doubles or as text beyond, and a command for the condition binds what its
predicates carry. -/
theorem carries_integers {payload? : Option String} {condition : Condition}
    (h : (compile catalog model payload?).result = .ok condition) :
    let content := stripPayload (payload?.getD "")
    ((content = "" ∧ condition = .group []) ∨
      ∃ spelling : Json.Spelling, spelling.IsOf content.toList ∧
        SpelledAs catalog model spelling condition) ∧
    ∀ (joined : JoinRegistry) (query : Query) (scope? : Option ParentScope) (paginate : Bool)
      (dialect : Sql.Dialect), query.condition = condition →
      ((Draft.ofSteps model.table (Assembly.ofQuery model joined query scope? paginate).steps
        ).rows.command dialect).values =
        scope?.toList.map (fun scope => .scalar scope.parentId) ++
          condition.predicates.flatMap (fun predicate => predicate.filter.bounds) ++
          if paginate then (Window.of query.perPage query.page).bounds else [] := by
  intro content
  constructor
  · obtain ⟨document, hdocument, hcompile, -⟩ := compile_eq_ok h
    unfold document? at hdocument
    simp only at hdocument
    split at hdocument
    · next hempty =>
        cases hdocument
        cases hcompile
        exact .inl ⟨String.isEmpty_iff.mp hempty, rfl⟩
    · obtain ⟨spelling, hlayout, hread⟩ := Json.exists_spelling hdocument
      have hmirrors := compileValue_eq_ok_iff.mp hcompile
      exact .inr ⟨spelling, hlayout, spelledAs_of_mirrors spelling hread hmirrors⟩
  · rintro joined query scope? paginate dialect rfl
    exact Assembly.values_ofQuery model joined query scope? paginate model.table dialect

theorem carries_integers_of_limits :
    let content := "\x7b\"id.$in\":[9223372036854775807,9223372036854775808]," ++
      "\"age.$in\":\"-9223372036854775808,007\"\x7d"
    let isIn (column : String) (values : List Scalar) : Predicate :=
      ⟨none, "User", "users", column, .set .isIn values, none⟩
    let condition : Condition := .group
      [.predicate (isIn "id" [.int 9223372036854775807, .float ⟨false, Double.leastNormal, 11⟩]),
        .predicate (isIn "age" [.int (-9223372036854775808), .text "007"])]
    let query : Query := ⟨1, 10, ["id"], [], condition, [], []⟩
    (compile Sample.registry.catalog Sample.user (some content)).result = .ok condition ∧
      (∃ spelling : Json.Spelling, spelling.IsOf content.toList ∧
        SpelledAs Sample.registry.catalog Sample.user spelling condition) ∧
      ((Draft.ofSteps "users" (Assembly.ofQuery Sample.user .empty query none false).steps
        ).rows.command .postgres).values =
        [.scalar (.int 9223372036854775807), .scalar (.float ⟨false, Double.leastNormal, 11⟩),
          .scalar (.int (-9223372036854775808)), .scalar (.text "007")] := by
  intro content isIn condition query
  have htokens : Json.tokens? content.toList = some
      [.openObject, .text "id.$in", .colon, .openArray,
        .number (.integer 9223372036854775807), .comma, .number (.integer 9223372036854775808),
        .closeArray, .comma, .text "age.$in", .colon, .text "-9223372036854775808,007",
        .closeObject] := by
    decide +kernel
  have hread : Json.read? content = some (.object
      [("id.$in", .array [.number (.integer 9223372036854775807),
          .number (.integer 9223372036854775808)]),
        ("age.$in", .text "-9223372036854775808,007")]) := by
    rw [Json.read?, Json.readWithin?, htokens]
    rfl
  have hescape : '%' ∉ content.toList := by decide +kernel
  have hspace : ' ' ∉ content.toList := by decide +kernel
  have hid : Predicate.ofPair Sample.registry.catalog Sample.user "id.$in"
      (.array [.number (.integer 9223372036854775807), .number (.integer 9223372036854775808)]) =
      .ok (isIn "id" [.int 9223372036854775807, .float ⟨false, Double.leastNormal, 11⟩]) := by
    decide +kernel
  have hage : Predicate.ofPair Sample.registry.catalog Sample.user "age.$in"
      (.text "-9223372036854775808,007") =
      .ok (isIn "age" [.int (-9223372036854775808), .text "007"]) := by
    decide +kernel
  have hcompile : (compile Sample.registry.catalog Sample.user (some content)).result =
      .ok condition := by
    rw [compile_eq, document?_of_read? hescape hspace hread]
    exact compileValue_eq_ok_iff.mpr (.object (.cons hid (.cons hage .nil)))
  obtain ⟨hspelled, hvalues⟩ := carries_integers hcompile
  rw [Option.getD_some, stripPayload_of_not_mem hescape hspace] at hspelled
  refine ⟨hcompile, ?_, hvalues .empty query none false .postgres rfl⟩
  rcases hspelled with ⟨hempty, -⟩ | hspelling
  · exact absurd hempty (by decide)
  · exact hspelling

theorem rounds_great_integers :
    let content := "\x7b\"id.$in\":[9223372036854775809,18446744073709551617]," ++
      "\"age.$in\":\"007\"\x7d"
    let first : Double := ⟨false, Double.leastNormal, 11⟩
    let second : Double := ⟨false, Double.leastNormal, 12⟩
    let isIn (column : String) (values : List Scalar) : Predicate :=
      ⟨none, "User", "users", column, .set .isIn values, none⟩
    (compile Sample.registry.catalog Sample.user (some content)).result = .ok (.group
      [.predicate (isIn "id" [.float first, .float second]),
        .predicate (isIn "age" [.text "007"])]) ∧
      first.ratio = (9223372036854775808, 1) ∧ second.ratio = (18446744073709551616, 1) := by
  intro content first second isIn
  have htokens : Json.tokens? content.toList = some
      [.openObject, .text "id.$in", .colon, .openArray,
        .number (.integer 9223372036854775809), .comma, .number (.double second), .closeArray,
        .comma, .text "age.$in", .colon, .text "007", .closeObject] := by
    decide +kernel
  have hread : Json.read? content = some (.object
      [("id.$in", .array [.number (.integer 9223372036854775809), .number (.double second)]),
        ("age.$in", .text "007")]) := by
    rw [Json.read?, Json.readWithin?, htokens]
    rfl
  have hdocument := document?_of_read? (by decide +kernel) (by decide +kernel) hread
  have hid : Predicate.ofPair Sample.registry.catalog Sample.user "id.$in"
      (.array [.number (.integer 9223372036854775809), .number (.double second)]) =
      .ok (isIn "id" [.float first, .float second]) := by
    decide +kernel
  have hage : Predicate.ofPair Sample.registry.catalog Sample.user "age.$in" (.text "007") =
      .ok (isIn "age" [.text "007"]) := by
    decide +kernel
  refine ⟨?_, by decide +kernel, by decide +kernel⟩
  rw [compile_eq, hdocument]
  exact compileValue_eq_ok_iff.mpr (.object (.cons hid (.cons hage .nil)))

end Condition

end ListQuery
