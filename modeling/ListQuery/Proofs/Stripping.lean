import ListQuery.Proofs.Reading

/-!
# What stripping leaves

A payload is freed of escaped spaces and then of spaces, each in one pass.  No space is left.  An
escape is left where its characters stood apart, as it comes together when what was between them
is gone.  A payload without such an escape is the same however often it is stripped.
-/

namespace ListQuery.Condition

def escapedSpace : List Char := ['%', '2', '0']

def stripped (chars : List Char) : List Char :=
  (dropEscapedSpaces chars).filter (· ≠ ' ')

/-- Characters of which nothing is left. -/
inductive IsGap : List Char → Prop where
  | nil : IsGap []
  | space {rest : List Char} (h : IsGap rest) : IsGap (' ' :: rest)
  | escape {rest : List Char} (h : IsGap rest) : IsGap (escapedSpace ++ rest)

/-- Somewhere the three characters of an escape stand with gaps between them. -/
def IsTorn (chars : List Char) : Prop :=
  ∃ front first second back,
    chars = front ++ '%' :: (first ++ '2' :: (second ++ '0' :: back)) ∧
      IsGap first ∧ IsGap second ∧ (first ≠ [] ∨ second ≠ [])

variable {chars front back rest gap : List Char} {char : Char}

/-! ## One character after the other -/

theorem dropEscapedSpaces_cons (h : ¬ escapedSpace <+: char :: rest) :
    dropEscapedSpaces (char :: rest) = char :: dropEscapedSpaces rest := by
  rw [dropEscapedSpaces]
  rintro back rfl rfl
  exact h (List.prefix_append escapedSpace back)

theorem stripped_escape (rest : List Char) : stripped (escapedSpace ++ rest) = stripped rest :=
  rfl

theorem stripped_space (rest : List Char) : stripped (' ' :: rest) = stripped rest := by
  have hkept : ¬ escapedSpace <+: ' ' :: rest := by simp [escapedSpace]
  simp [stripped, dropEscapedSpaces_cons hkept]

theorem stripped_cons (hescape : ¬ escapedSpace <+: char :: rest) (hspace : char ≠ ' ') :
    stripped (char :: rest) = char :: stripped rest := by
  simp [stripped, dropEscapedSpaces_cons hescape, hspace]

theorem strip_induction {motive : List Char → Prop} (nil : motive [])
    (escape : ∀ rest, motive rest → motive (escapedSpace ++ rest))
    (space : ∀ rest, motive rest → motive (' ' :: rest))
    (kept : ∀ char rest, ¬ escapedSpace <+: char :: rest → char ≠ ' ' → motive rest →
      motive (char :: rest)) (chars : List Char) : motive chars := by
  fun_induction dropEscapedSpaces chars with
  | case1 rest ih => exact escape rest ih
  | case2 char rest hother ih =>
      by_cases hspace : char = ' '
      · exact hspace ▸ space rest ih
      · refine kept char rest ?_ hspace ih
        rintro ⟨back, hback⟩
        obtain ⟨rfl, rfl⟩ := List.cons_eq_cons.mp hback
        exact hother back rfl rfl
  | case3 => exact nil

theorem IsGap.stripped_append (h : IsGap gap) (rest : List Char) :
    stripped (gap ++ rest) = stripped rest := by
  induction h with
  | nil => rfl
  | space _ ih => rw [List.cons_append, stripped_space, ih]
  | escape _ ih => rw [List.append_assoc, stripped_escape, ih]

theorem not_mem_stripped (chars : List Char) : ' ' ∉ stripped chars := by
  simp [stripped]

theorem length_stripped_le (chars : List Char) : (stripped chars).length ≤ chars.length := by
  induction chars using strip_induction with
  | nil => exact Nat.le_refl _
  | escape rest ih =>
      rw [stripped_escape, List.length_append]
      omega
  | space rest ih =>
      rw [stripped_space, List.length_cons]
      omega
  | kept char rest hescape hspace ih =>
      rw [stripped_cons hescape hspace]
      simpa using ih

theorem stripped_eq_self_iff :
    stripped chars = chars ↔ ' ' ∉ chars ∧ ¬ escapedSpace <:+: chars := by
  induction chars using strip_induction with
  | nil => simp [stripped, dropEscapedSpaces, escapedSpace]
  | escape rest ih =>
      have hshorter : stripped (escapedSpace ++ rest) ≠ escapedSpace ++ rest := by
        intro hself
        have hlength := length_stripped_le rest
        rw [← stripped_escape, hself] at hlength
        simp [escapedSpace] at hlength
        omega
      have hescape : escapedSpace <:+: escapedSpace ++ rest := (List.prefix_append _ _).isInfix
      simp [hshorter, hescape]
  | space rest ih =>
      have hshorter : stripped (' ' :: rest) ≠ ' ' :: rest := by
        intro hself
        have hlength := length_stripped_le rest
        rw [← stripped_space, hself, List.length_cons] at hlength
        omega
      simp [hshorter]
  | kept char rest hescape hspace ih =>
      rw [stripped_cons hescape hspace, List.cons_inj_right, ih, List.infix_cons_iff]
      simp [hescape, Ne.symm hspace]

/-! ## Escapes that are left -/

theorem exists_gap_of_stripped (h : stripped chars = char :: back) :
    ∃ gap rest, chars = gap ++ char :: rest ∧ IsGap gap ∧
      ¬ escapedSpace <+: char :: rest ∧ stripped rest = back := by
  induction chars using strip_induction with
  | nil => cases h
  | escape rest ih =>
      obtain ⟨gap, others, rfl, hgap, hothers⟩ := ih h
      exact ⟨escapedSpace ++ gap, others, by simp, hgap.escape, hothers⟩
  | space rest ih =>
      rw [stripped_space] at h
      obtain ⟨gap, others, rfl, hgap, hothers⟩ := ih h
      exact ⟨' ' :: gap, others, rfl, hgap.space, hothers⟩
  | kept first rest hescape hspace ih =>
      rw [stripped_cons hescape hspace] at h
      obtain ⟨rfl, rfl⟩ := List.cons_eq_cons.mp h
      exact ⟨[], rest, rfl, .nil, hescape, rfl⟩

theorem exists_of_stripped_append (h : stripped chars = front ++ back) :
    ∃ first second, chars = first ++ second ∧ stripped second = back := by
  induction front generalizing chars with
  | nil => exact ⟨[], chars, rfl, h⟩
  | cons char front ih =>
      obtain ⟨gap, rest, rfl, -, -, hrest⟩ := exists_gap_of_stripped h
      obtain ⟨first, second, rfl, hsecond⟩ := ih hrest
      exact ⟨gap ++ char :: first, second, by simp, hsecond⟩

theorem isTorn_of_escape_left (h : escapedSpace <:+: stripped chars) : IsTorn chars := by
  obtain ⟨front, back, hleft⟩ := h
  rw [List.append_assoc] at hleft
  obtain ⟨start, rest, rfl, hrest⟩ := exists_of_stripped_append hleft.symm
  obtain ⟨lead, afterPercent, rfl, -, hwhole, hpercent⟩ := exists_gap_of_stripped hrest
  obtain ⟨first, afterTwo, rfl, hfirst, -, htwo⟩ := exists_gap_of_stripped hpercent
  obtain ⟨second, afterZero, rfl, hsecond, -, -⟩ := exists_gap_of_stripped htwo
  refine ⟨start ++ lead, first, second, afterZero, by simp, hfirst, hsecond, ?_⟩
  -- With nothing between its characters the escape would have been dropped as a whole.
  by_contra hnone
  obtain ⟨rfl, rfl⟩ : first = [] ∧ second = [] := by simpa using hnone
  exact hwhole (List.prefix_append escapedSpace afterZero)

theorem not_prefix_append_percent (h : ¬ escapedSpace <+: char :: rest) (back : List Char) :
    ¬ escapedSpace <+: char :: (rest ++ '%' :: back) := by
  intro hprefix
  rcases rest with _ | ⟨second, _ | ⟨third, rest⟩⟩
  · simp [escapedSpace] at hprefix
  · simp [escapedSpace] at hprefix
  · have hfront : char :: second :: third :: rest <+:
        char :: (second :: third :: rest ++ '%' :: back) := List.prefix_append _ _
    exact h (List.prefix_of_prefix_length_le hprefix hfront (by simp [escapedSpace]))

/-- No escape runs over a percent sign, so what is before it is stripped on its own. -/
theorem stripped_append_percent (front back : List Char) :
    stripped (front ++ '%' :: back) = stripped front ++ stripped ('%' :: back) := by
  induction front using strip_induction with
  | nil => rfl
  | escape rest ih => rw [List.append_assoc, stripped_escape, stripped_escape, ih]
  | space rest ih => rw [List.cons_append, stripped_space, stripped_space, ih]
  | kept char rest hescape hspace ih =>
      rw [List.cons_append, stripped_cons (not_prefix_append_percent hescape back) hspace,
        stripped_cons hescape hspace, ih, List.cons_append]

theorem IsGap.exists_head (h : IsGap gap) (hne : gap ≠ []) :
    ∃ char rest, gap = char :: rest ∧ (char = ' ' ∨ char = '%') := by
  cases h with
  | nil => exact absurd rfl hne
  | space => exact ⟨' ', _, rfl, .inl rfl⟩
  | escape => exact ⟨'%', _, rfl, .inr rfl⟩

theorem escape_left_of_isTorn (h : IsTorn chars) : escapedSpace <:+: stripped chars := by
  obtain ⟨front, first, second, back, rfl, hfirst, hsecond, hgap⟩ := h
  have hpercent : ¬ escapedSpace <+: '%' :: (first ++ '2' :: (second ++ '0' :: back)) := by
    intro hprefix
    by_cases hnil : first = []
    · obtain ⟨char, rest, rfl, hchar⟩ := hsecond.exists_head (hgap.resolve_left (not_not.mpr hnil))
      rcases hchar with rfl | rfl <;> simp [hnil, escapedSpace] at hprefix
    · obtain ⟨char, rest, rfl, hchar⟩ := hfirst.exists_head hnil
      rcases hchar with rfl | rfl <;> simp [escapedSpace] at hprefix
  have htwo : ¬ escapedSpace <+: '2' :: (second ++ '0' :: back) := by simp [escapedSpace]
  have hzero : ¬ escapedSpace <+: '0' :: back := by simp [escapedSpace]
  refine ⟨stripped front, stripped back, ?_⟩
  rw [stripped_append_percent, stripped_cons hpercent (by decide), hfirst.stripped_append,
    stripped_cons htwo (by decide), hsecond.stripped_append, stripped_cons hzero (by decide)]
  simp [escapedSpace]

theorem escape_left_iff : escapedSpace <:+: stripped chars ↔ IsTorn chars :=
  ⟨isTorn_of_escape_left, escape_left_of_isTorn⟩

/-! ## Payloads -/

theorem toList_stripPayload (payload : String) :
    (stripPayload payload).toList = stripped payload.toList := by
  rw [stripPayload, String.toList_ofList]
  rfl

theorem stripPayload_stripPayload_iff (payload : String) :
    stripPayload (stripPayload payload) = stripPayload payload ↔ ¬ IsTorn payload.toList := by
  rw [← String.toList_inj, toList_stripPayload (stripPayload payload), toList_stripPayload payload,
    stripped_eq_self_iff, escape_left_iff, and_iff_right (not_mem_stripped _)]

theorem compile_congr {first second : String} (h : stripPayload first = stripPayload second)
    (catalog : Catalog) (model : Model) :
    compile catalog model (some first) = compile catalog model (some second) := by
  simp [compile, compileAfter, h]

/-- Stripping leaves no space.  It leaves an escape just where the payload has a torn one, and
only then does it change what was stripped before; any other payload compiles as what is left
of it does. -/
theorem stripPayload_leaves (payload : String) :
    ' ' ∉ (stripPayload payload).toList ∧
      (escapedSpace <:+: (stripPayload payload).toList ↔ IsTorn payload.toList) ∧
      (stripPayload (stripPayload payload) = stripPayload payload ↔ ¬ IsTorn payload.toList) ∧
      (¬ IsTorn payload.toList → ∀ (catalog : Catalog) (model : Model),
        compile catalog model (some (stripPayload payload)) =
          compile catalog model (some payload)) := by
  have hagain := stripPayload_stripPayload_iff payload
  refine ⟨?_, ?_, hagain, fun hwhole => compile_congr (hagain.mpr hwhole)⟩
  · rw [toList_stripPayload]
    exact not_mem_stripped _
  · rw [toList_stripPayload]
    exact escape_left_iff

theorem stripPayload_leaves_of_spaced :
    let payload := "\x7b \"id\" :%20null \x7d"
    ¬ IsTorn payload.toList ∧ stripPayload payload = "\x7b\"id\":null\x7d" ∧
      compile Sample.registry.catalog Sample.user (some "\x7b\"id\":null\x7d") =
        compile Sample.registry.catalog Sample.user (some payload) := by
  intro payload
  have hstrip : stripPayload payload = "\x7b\"id\":null\x7d" := by decide +kernel
  obtain ⟨-, hescape, -, hcompile⟩ := stripPayload_leaves payload
  have hwhole : ¬ IsTorn payload.toList := by
    rw [← hescape, hstrip]
    decide +kernel
  rw [hstrip] at hcompile
  exact ⟨hwhole, hstrip, hcompile hwhole _ _⟩

theorem leaves_torn_escape :
    let payload := "\x7b\"id\":\"a%2 0b\"\x7d"
    let left := "\x7b\"id\":\"a%20b\"\x7d"
    let equalTo (value : String) : Condition :=
      .group [.predicate ⟨none, "User", "users", "id", .compare .equal (.text value), none⟩]
    stripPayload payload = left ∧ escapedSpace <:+: left.toList ∧ stripPayload left ≠ left ∧
      (compile Sample.registry.catalog Sample.user (some payload)).result =
        .ok (equalTo "a%20b") ∧
      (compile Sample.registry.catalog Sample.user (some left)).result = .ok (equalTo "ab") := by
  intro payload left equalTo
  have hstrip : stripPayload payload = "\x7b\"id\":\"a%20b\"\x7d" := by decide +kernel
  have hagain : stripPayload left = "\x7b\"id\":\"ab\"\x7d" := by decide +kernel
  have hdocument : document? (some payload) = some (.object [("id", .text "a%20b")]) := by
    rw [document?, Option.getD_some, hstrip]
    rfl
  have hleft : document? (some left) = some (.object [("id", .text "ab")]) := by
    rw [document?, Option.getD_some, hagain]
    rfl
  refine ⟨hstrip, by decide +kernel, ?_, ?_, ?_⟩
  · rw [hagain]
    decide
  · rw [compile_eq, hdocument]
    rfl
  · rw [compile_eq, hleft]
    rfl

end ListQuery.Condition
