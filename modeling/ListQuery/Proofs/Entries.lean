import ListQuery.Proofs.Compile

/-!
# Documents entry by entry

In the order of a document stand its entries: the pairs of its objects, and values where only an
array, an object or `null` may stand.  A document compiles if each of its entries is a pair that
makes a predicate, and the condition is then the document node by node.  Otherwise the first
entry that makes none decides the error.  What is recorded are the columns of the entries up to
there.
-/

namespace ListQuery

/-! ## Results one after the other -/

namespace Compiled

variable {α β γ : Type}

@[simp] theorem map_self (compiled : Compiled α) :
    compiled.map (fun value => value) = compiled := by
  obtain ⟨result, columns⟩ := compiled
  cases result <;> rfl

theorem map_map (change : α → β) (next : β → γ) (compiled : Compiled α) :
    (compiled.map change).map next = compiled.map (next ∘ change) := by
  obtain ⟨result, columns⟩ := compiled
  cases result <;> rfl

theorem map_andThen (compiled : Compiled α) (next : α → Compiled β) (change : β → γ) :
    (compiled.andThen next).map change = compiled.andThen fun value => (next value).map change := by
  obtain ⟨result, columns⟩ := compiled
  cases result <;> rfl

theorem andThen_map (change : α → β) (compiled : Compiled α) (next : β → Compiled γ) :
    (compiled.map change).andThen next = compiled.andThen fun value => next (change value) := by
  obtain ⟨result, columns⟩ := compiled
  cases result <;> rfl

theorem andThen_assoc (compiled : Compiled α) (next : α → Compiled β) (last : β → Compiled γ) :
    (compiled.andThen next).andThen last =
      compiled.andThen fun value => (next value).andThen last := by
  cases hresult : compiled.result with
  | error error => simp [andThen, hresult]
  | ok value => cases hnext : (next value).result <;> simp [andThen, hresult, hnext]

theorem exists_of_map_eq_ok {compiled : Compiled α} {change : α → β} {changed : β}
    {columns : List String} (h : compiled.map change = ⟨.ok changed, columns⟩) :
    ∃ value, compiled = ⟨.ok value, columns⟩ ∧ change value = changed := by
  obtain ⟨result, recorded⟩ := compiled
  cases result with
  | error error => cases h
  | ok value =>
      cases h
      exact ⟨value, rfl, rfl⟩

theorem eq_of_map_eq_error {compiled : Compiled α} {change : α → β} {error : QueryError}
    {columns : List String} (h : compiled.map change = ⟨.error error, columns⟩) :
    compiled = ⟨.error error, columns⟩ := by
  obtain ⟨result, recorded⟩ := compiled
  cases result with
  | error found =>
      cases h
      rfl
  | ok value => cases h

@[simp] theorem pure_andThen (value : α) (next : α → Compiled β) :
    (pure value).andThen next = next value := by
  simp [andThen, pure]

end Compiled

/-! ## Entries -/

inductive Entry where
  | pair (key : String) (value : Json)
  /-- A value in the place of an array, an object or `null`. -/
  | stray (value : Json)

mutual

def Json.entries : Json → List Entry
  | .array items => Entry.ofItems items
  | .object pairs => pairs.map fun (key, value) => .pair key value
  | .null => []
  | value => [.stray value]

def Entry.ofItems : List Json → List Entry
  | [] => []
  | item :: items => item.entries ++ Entry.ofItems items

end

namespace Entry

variable (catalog : Catalog) (model : Model)

def predicate : Entry → Except QueryError Predicate
  | .pair key value => Predicate.ofPair catalog model key value
  | .stray value => .error (.malformedFilter value.write)

def compile (entry : Entry) : Compiled Predicate :=
  match entry.predicate catalog model with
  | .ok predicate => ⟨.ok predicate, [predicate.column]⟩
  | .error error => .fail error

def compileAll : List Entry → Compiled (List Predicate)
  | [] => .pure []
  | entry :: entries =>
      (entry.compile catalog model).andThen fun predicate =>
        (compileAll entries).map (predicate :: ·)

abbrev Make (entries : List Entry) (predicates : List Predicate) : Prop :=
  List.Forall₂ (fun entry predicate => entry.predicate catalog model = .ok predicate)
    entries predicates

theorem compileAll_append (front back : List Entry) :
    compileAll catalog model (front ++ back) =
      (compileAll catalog model front).andThen fun predicates =>
        (compileAll catalog model back).map (predicates ++ ·) := by
  induction front with
  | nil => simp [compileAll]
  | cons entry front ih =>
      simp [compileAll, ih, Compiled.andThen_assoc, Compiled.map_andThen, Compiled.andThen_map,
        Compiled.map_map, Function.comp_def]

variable {catalog model} {entries front back : List Entry} {predicates : List Predicate}

theorem Make.compileAll_eq (h : Make catalog model entries predicates) :
    compileAll catalog model entries = ⟨.ok predicates, predicates.map Predicate.column⟩ := by
  induction h with
  | nil => rfl
  | @cons entry predicate entries predicates hentry _ ih =>
      have hfirst : entry.compile catalog model = ⟨.ok predicate, [predicate.column]⟩ := by
        simp [compile, hentry]
      rw [compileAll, hfirst, ih]
      rfl

theorem Make.compileAll_append_eq (h : Make catalog model front predicates) {entry : Entry}
    {error : QueryError} (herror : entry.predicate catalog model = .error error)
    (back : List Entry) :
    compileAll catalog model (front ++ entry :: back) =
      ⟨.error error, predicates.map Predicate.column⟩ := by
  have hentry : entry.compile catalog model = .fail error := by simp [compile, herror]
  rw [compileAll_append, h.compileAll_eq, compileAll, hentry]
  simp [Compiled.andThen, Compiled.map, Compiled.fail, Except.map]

theorem predicate_eq_ok_iff {entry : Entry} {predicate : Predicate} :
    entry.predicate catalog model = .ok predicate ↔
      ∃ key value, entry = .pair key value ∧
        Predicate.ofPair catalog model key value = .ok predicate := by
  cases entry <;> simp [Entry.predicate]

theorem Make.exists_predicate (h : Make catalog model entries predicates) :
    ∀ entry ∈ entries, ∃ predicate, entry.predicate catalog model = .ok predicate := by
  induction h with
  | nil => simp
  | cons hentry _ ih => exact List.forall_mem_cons.mpr ⟨⟨_, hentry⟩, ih⟩

theorem make_or_error (catalog : Catalog) (model : Model) (entries : List Entry) :
    (∃ predicates, Make catalog model entries predicates) ∨
      ∃ front entry back predicates error, entries = front ++ entry :: back ∧
        Make catalog model front predicates ∧ entry.predicate catalog model = .error error := by
  induction entries with
  | nil => exact .inl ⟨[], .nil⟩
  | cons first entries ih =>
      cases hfirst : first.predicate catalog model with
      | error error => exact .inr ⟨[], first, entries, [], error, rfl, .nil, hfirst⟩
      | ok predicate =>
          rcases ih with ⟨predicates, hall⟩ |
            ⟨front, entry, back, predicates, error, rfl, hfront, herror⟩
          · exact .inl ⟨predicate :: predicates, .cons hfirst hall⟩
          · exact .inr ⟨first :: front, entry, back, predicate :: predicates, error, rfl,
              .cons hfirst hfront, herror⟩

end Entry

/-! ## Documents -/

namespace Condition

variable (catalog : Catalog) (model : Model)

theorem map_compilePairs (pairs : List (String × Json)) :
    (compilePairs catalog model pairs).map predicatesAmong =
      Entry.compileAll catalog model (pairs.map fun (key, value) => .pair key value) := by
  induction pairs with
  | nil => rfl
  | cons pair pairs ih =>
      obtain ⟨key, value⟩ := pair
      have hentry : (Entry.pair key value).compile catalog model =
          Predicate.compile catalog model key value := rfl
      rw [List.map_cons, Entry.compileAll, hentry, ← ih, compilePairs, Compiled.map_andThen]
      simp only [Compiled.map_map, Function.comp_def, predicatesAmong, predicates,
        List.singleton_append]

mutual

theorem map_compileValue : ∀ document : Json,
    (compileValue catalog model document).map predicates =
      Entry.compileAll catalog model document.entries
  | .array items => by
      rw [compileValue, Compiled.map_map, Json.entries, ← map_compileItems items]
      rfl
  | .object pairs => by
      rw [compileValue, Compiled.map_map, Json.entries, ← map_compilePairs]
      rfl
  | .null => rfl
  | .bool _ => rfl
  | .number _ => rfl
  | .text _ => rfl

theorem map_compileItems : ∀ items : List Json,
    (compileItems catalog model items).map predicatesAmong =
      Entry.compileAll catalog model (Entry.ofItems items)
  | [] => rfl
  | item :: items => by
      rw [compileItems, Entry.ofItems, Entry.compileAll_append, ← map_compileValue item,
        ← map_compileItems items, Compiled.map_andThen, Compiled.andThen_map]
      simp only [Compiled.map_map, Function.comp_def, predicatesAmong]

end

/-- The condition is the document node by node: arrays and objects are groups of what their
items and pairs are, and `null` is a group of nothing. -/
inductive Mirrors : Json → Condition → Prop
  | array {items : List Json} {members : List Condition} (h : List.Forall₂ Mirrors items members) :
      Mirrors (.array items) (.group members)
  | object {pairs : List (String × Json)} {predicates : List Predicate}
      (h : List.Forall₂ (fun pair predicate =>
        Predicate.ofPair catalog model pair.1 pair.2 = .ok predicate) pairs predicates) :
      Mirrors (.object pairs) (.group (predicates.map .predicate))
  | null : Mirrors .null (.group [])

variable {catalog model}

theorem compilePairs_of_forall₂ {pairs : List (String × Json)} {predicates : List Predicate}
    (h : List.Forall₂ (fun pair predicate =>
      Predicate.ofPair catalog model pair.1 pair.2 = .ok predicate) pairs predicates) :
    (compilePairs catalog model pairs).result = .ok (predicates.map .predicate) := by
  induction h with
  | nil => rfl
  | @cons pair predicate pairs predicates hpair _ ih =>
      obtain ⟨key, value⟩ := pair
      rw [compilePairs, Predicate.compile_of_ofPair hpair]
      simp [Compiled.andThen, Compiled.map, ih, Except.map]

mutual

theorem mirrors_of_compileValue : ∀ (document : Json) {condition : Condition},
    (compileValue catalog model document).result = .ok condition →
    Mirrors catalog model document condition
  | .array items, condition, h => by
      obtain ⟨members, hmembers, rfl⟩ := exists_of_map_eq_ok h
      exact .array (mirrors_of_compileItems items hmembers)
  | .object pairs, condition, h => by
      obtain ⟨members, hmembers, rfl⟩ := exists_of_map_eq_ok h
      obtain ⟨predicates, rfl, hpairs, -⟩ := compilePairs_eq_ok hmembers
      exact .object hpairs
  | .null, condition, h => by
      cases h
      exact .null
  | .bool _, condition, h => by cases h
  | .number _, condition, h => by cases h
  | .text _, condition, h => by cases h

theorem mirrors_of_compileItems : ∀ (items : List Json) {members : List Condition},
    (compileItems catalog model items).result = .ok members →
    List.Forall₂ (Mirrors catalog model) items members
  | [], members, h => by
      cases h
      exact .nil
  | item :: items, members, h => by
      obtain ⟨condition, rest, hitem, hrest, rfl, -⟩ := Compiled.exists_of_andThen_map h
      exact .cons (mirrors_of_compileValue item hitem) (mirrors_of_compileItems items hrest)

end

mutual

theorem Mirrors.compileValue_eq : ∀ (document : Json) {condition : Condition},
    Mirrors catalog model document condition →
    (compileValue catalog model document).result = .ok condition
  | .array items, condition, h => by
      cases h with
      | array hitems =>
          rw [compileValue, Compiled.map, Mirrors.compileItems_eq items hitems]
          rfl
  | .object pairs, condition, h => by
      cases h with
      | object hpairs =>
          rw [compileValue, Compiled.map, compilePairs_of_forall₂ hpairs]
          rfl
  | .null, condition, h => by
      cases h
      rfl
  | .bool _, condition, h => by cases h
  | .number _, condition, h => by cases h
  | .text _, condition, h => by cases h

theorem Mirrors.compileItems_eq : ∀ (items : List Json) {members : List Condition},
    List.Forall₂ (Mirrors catalog model) items members →
    (compileItems catalog model items).result = .ok members
  | [], members, h => by
      cases h
      rfl
  | item :: items, members, h => by
      cases h with
      | cons hitem hitems =>
          have hfirst := Mirrors.compileValue_eq item hitem
          have hrest := Mirrors.compileItems_eq items hitems
          rw [compileItems, Compiled.andThen_of_ok _ hfirst, Compiled.map, hrest]
          rfl

end

theorem compileValue_eq_ok_iff {document : Json} {condition : Condition} :
    (compileValue catalog model document).result = .ok condition ↔
      Mirrors catalog model document condition :=
  ⟨mirrors_of_compileValue document, Mirrors.compileValue_eq document⟩

theorem exists_of_make {document : Json} {predicates : List Predicate}
    (h : Entry.Make catalog model document.entries predicates) :
    ∃ condition, compileValue catalog model document =
      ⟨.ok condition, condition.predicates.map Predicate.column⟩ := by
  have hall := (map_compileValue catalog model document).trans h.compileAll_eq
  obtain ⟨condition, hcompile, hpredicates⟩ := Compiled.exists_of_map_eq_ok hall
  exact ⟨condition, by rw [hcompile, hpredicates]⟩

theorem compileValue_of_error {document : Json} {front back : List Entry} {entry : Entry}
    {predicates : List Predicate} {error : QueryError}
    (hentries : document.entries = front ++ entry :: back)
    (hfront : Entry.Make catalog model front predicates)
    (herror : entry.predicate catalog model = .error error) :
    compileValue catalog model document =
      ⟨.error error, predicates.map Predicate.column⟩ := by
  have hall := map_compileValue catalog model document
  rw [hentries, hfront.compileAll_append_eq herror back] at hall
  exact Compiled.eq_of_map_eq_error hall

theorem compileValue_eq_error_iff {document : Json} {error : QueryError} :
    (compileValue catalog model document).result = .error error ↔
      ∃ front entry back predicates, document.entries = front ++ entry :: back ∧
        Entry.Make catalog model front predicates ∧
        entry.predicate catalog model = .error error ∧
        (compileValue catalog model document).columns = predicates.map Predicate.column := by
  constructor
  · intro h
    rcases Entry.make_or_error catalog model document.entries with
      ⟨predicates, hmake⟩ | ⟨front, entry, back, predicates, other, hentries, hfront, herror⟩
    · obtain ⟨condition, hcompile⟩ := exists_of_make hmake
      rw [hcompile] at h
      cases h
    · have hcompile := compileValue_of_error hentries hfront herror
      rw [hcompile] at h ⊢
      cases h
      exact ⟨front, entry, back, predicates, hentries, hfront, herror, rfl⟩
  · rintro ⟨front, entry, back, predicates, hentries, hfront, herror, -⟩
    rw [compileValue_of_error hentries hfront herror]

theorem exists_condition_iff {document : Json} :
    (∃ condition, (compileValue catalog model document).result = .ok condition) ↔
      ∀ entry ∈ document.entries, ∃ key value predicate, entry = .pair key value ∧
        Predicate.ofPair catalog model key value = .ok predicate := by
  have hpair : ∀ entry : Entry,
      (∃ key value predicate, entry = .pair key value ∧
        Predicate.ofPair catalog model key value = .ok predicate) ↔
      ∃ predicate, entry.predicate catalog model = .ok predicate := by
    intro entry
    simp only [Entry.predicate_eq_ok_iff]
    constructor
    · rintro ⟨key, value, predicate, h⟩
      exact ⟨predicate, key, value, h⟩
    · rintro ⟨predicate, key, value, h⟩
      exact ⟨key, value, predicate, h⟩
  simp only [hpair]
  rcases Entry.make_or_error catalog model document.entries with
    ⟨predicates, hmake⟩ | ⟨front, entry, back, predicates, error, hentries, hfront, herror⟩
  · obtain ⟨condition, hcompile⟩ := exists_of_make hmake
    exact ⟨fun _ => hmake.exists_predicate, fun _ => ⟨condition, by rw [hcompile]⟩⟩
  · have hcompile := compileValue_of_error hentries hfront herror
    constructor
    · rintro ⟨condition, hresult⟩
      rw [hcompile] at hresult
      cases hresult
    · intro hall
      obtain ⟨predicate, hpredicate⟩ := hall entry (by simp [hentries])
      cases herror.symm.trans hpredicate

/-- A document compiles if all its entries are pairs that make predicates, and then to a
condition that is the document node by node; otherwise the first other entry decides the error.
The record goes on by the columns of the predicates, or of those before that entry. -/
theorem compileValue_mirrors (catalog : Catalog) (model : Model) (recorded : List String)
    (document : Json) :
    let compiled := (compileValue catalog model document).after recorded
    ((∃ condition, compiled.result = .ok condition) ↔
        ∀ entry ∈ document.entries, ∃ key value predicate, entry = .pair key value ∧
          Predicate.ofPair catalog model key value = .ok predicate) ∧
      (∀ condition, compiled.result = .ok condition ↔
        Mirrors catalog model document condition ∧
          compiled.columns = recorded ++ condition.predicates.map Predicate.column) ∧
      (∀ error, compiled.result = .error error ↔
        ∃ front entry back predicates, document.entries = front ++ entry :: back ∧
          Entry.Make catalog model front predicates ∧
          entry.predicate catalog model = .error error ∧
          compiled.columns = recorded ++ predicates.map Predicate.column) ∧
      ∀ payload? condition, (compile catalog model payload?).result = .ok condition →
        (compile catalog model payload?).columns =
          condition.predicates.map Predicate.column := by
  intro compiled
  refine ⟨exists_condition_iff, ?_, ?_, ?_⟩
  · intro condition
    constructor
    · intro h
      have hcolumns := (compileValue_eq_ok document h).1
      exact ⟨compileValue_eq_ok_iff.mp h, congrArg (recorded ++ ·) hcolumns⟩
    · rintro ⟨hmirrors, -⟩
      exact compileValue_eq_ok_iff.mpr hmirrors
  · intro error
    have hrecord : ∀ columns, compiled.columns = recorded ++ columns ↔
        (compileValue catalog model document).columns = columns :=
      fun columns => List.append_right_inj recorded
    simp only [hrecord]
    exact compileValue_eq_error_iff
  · intro payload? condition h
    obtain ⟨-, -, -, hcolumns⟩ := compile_eq_ok h
    exact hcolumns

end Condition

end ListQuery
