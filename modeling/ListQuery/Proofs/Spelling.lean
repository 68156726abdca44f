import Mathlib.Data.List.Forall2
import Mathlib.Tactic.SplitIfs
import ListQuery.Json.Reader

/-!
# Spelled documents

A document is spelled with words, texts and marks, and with blanks among them that say nothing.
What is read from a content is spelled by all of it: every number of the document is the reading
of a word that stands in the number's place.
-/

namespace ListQuery.Json

/-! ## Lexemes -/

inductive Lexeme where
  | mark (char : Char)
  | word (chars : List Char)
  /-- What stands between two quotes, by the text that it is read as. -/
  | text (value : String)

def Lexeme.token? : Lexeme → Option Token
  | .mark char => Token.mark? char
  | .word chars => Token.ofWord? chars
  | .text value => some (.text value)

def IsBody (body : List Char) (value : String) : Prop :=
  (body ++ ['"']).foldlM Scanner.step? ⟨[], .text [] none⟩ = some ⟨[.text value], .between⟩

/-- The lexemes stand one after the other, with blanks among them. -/
inductive Layout : List Char → List Lexeme → Prop where
  | nil : Layout [] []
  | blank {chars : List Char} {lexemes : List Lexeme} {char : Char} (h : Layout chars lexemes)
      (hblank : Scanner.isSpace char = true) : Layout (chars ++ [char]) lexemes
  | mark {chars : List Char} {lexemes : List Lexeme} {char : Char} (h : Layout chars lexemes)
      (hmark : (Token.mark? char).isSome) : Layout (chars ++ [char]) (lexemes ++ [.mark char])
  | word {chars : List Char} {lexemes : List Lexeme} {word : List Char}
      (h : Layout chars lexemes) (hne : word ≠ [])
      (hword : ∀ char ∈ word, Scanner.isWordChar char = true) :
      Layout (chars ++ word) (lexemes ++ [.word word])
  | text {chars : List Char} {lexemes : List Lexeme} {body : List Char} {value : String}
      (h : Layout chars lexemes) (hbody : IsBody body value) :
      Layout (chars ++ '"' :: (body ++ ['"'])) (lexemes ++ [.text value])

/-! ## The scanner -/

inductive Piece.IsInner : Piece → Prop where
  | text {spelled : List Char} {high : Option Nat} : IsInner (.text spelled high)
  | escape {spelled : List Char} {high : Option Nat} : IsInner (.escape spelled high)
  | codePoint {spelled : List Char} {high : Option Nat} {digits value : Nat} :
      IsInner (.codePoint spelled high digits value)

namespace Scanner

variable {tokens : List Token} {token : Token} {chars : List Char} {char : Char}
  {scanner next : Scanner}

theorem isInner_of_unit? {spelled : List Char} {high : Option Nat} {value : Nat} {piece : Piece}
    (h : unit? spelled high value = some piece) : piece.IsInner := by
  unfold unit? at h
  simp only at h
  split at h
  · split_ifs at h <;> cases h <;> exact .text
  · split_ifs at h
    cases h
    exact .text

theorem step?_cases {piece : Piece} (hinner : piece.IsInner)
    (h : step? ⟨tokens, piece⟩ char = some next) :
    (∃ inner : Piece, inner.IsInner ∧ next = ⟨tokens, inner⟩ ∧
      step? ⟨[], piece⟩ char = some ⟨[], inner⟩) ∨
    ∃ value, char = '"' ∧ next = ⟨.text value :: tokens, .between⟩ ∧
      step? ⟨[], piece⟩ char = some ⟨[.text value], .between⟩ := by
  cases hinner with
  | text =>
      simp only [step?] at h ⊢
      split_ifs at h ⊢ with hescape hbad hquote
      · cases h
        exact .inl ⟨_, .escape, rfl, rfl⟩
      · cases h
        exact .inr ⟨_, hquote, rfl, rfl⟩
      · cases h
        exact .inl ⟨_, .text, rfl, rfl⟩
  | escape =>
      simp only [step?] at h ⊢
      split_ifs at h ⊢ with hpoint hbad
      · cases h
        exact .inl ⟨_, .codePoint, rfl, rfl⟩
      · obtain ⟨value, hvalue, h⟩ := Option.bind_eq_some_iff.mp h
        cases h
        exact .inl ⟨_, .text, rfl, by rw [hvalue]; rfl⟩
  | codePoint =>
      obtain ⟨digit, hdigit, h⟩ := Option.bind_eq_some_iff.mp h
      simp only [step?, hdigit]
      simp only at h
      split_ifs at h ⊢ with hlast
      · obtain ⟨piece, hunit, h⟩ := Option.bind_eq_some_iff.mp h
        cases h
        exact .inl ⟨piece, isInner_of_unit? hunit, rfl, by simp [hunit]⟩
      · cases h
        exact .inl ⟨_, .codePoint, rfl, rfl⟩

/-- The characters are laid out as lexemes that are read as the tokens, the last of them
first. -/
def Covers (tokens : List Token) (chars : List Char) : Prop :=
  ∃ lexemes, Layout chars lexemes ∧ lexemes.map Lexeme.token? = tokens.reverse.map some

theorem Covers.blank (h : Covers tokens chars) (hblank : isSpace char = true) :
    Covers tokens (chars ++ [char]) := by
  obtain ⟨lexemes, hlayout, htokens⟩ := h
  exact ⟨lexemes, hlayout.blank hblank, htokens⟩

theorem Covers.mark (h : Covers tokens chars) (hmark : Token.mark? char = some token) :
    Covers (token :: tokens) (chars ++ [char]) := by
  obtain ⟨lexemes, hlayout, htokens⟩ := h
  refine ⟨lexemes ++ [.mark char], hlayout.mark (by simp [hmark]), ?_⟩
  simp [htokens, Lexeme.token?, hmark]

theorem Covers.word (h : Covers tokens chars) {word : List Char} (hne : word ≠ [])
    (hword : ∀ char ∈ word, isWordChar char = true) (htoken : Token.ofWord? word = some token) :
    Covers (token :: tokens) (chars ++ word) := by
  obtain ⟨lexemes, hlayout, htokens⟩ := h
  refine ⟨lexemes ++ [.word word], hlayout.word hne hword, ?_⟩
  simp [htokens, Lexeme.token?, htoken]

theorem Covers.text (h : Covers tokens chars) {body : List Char} {value : String}
    (hbody : IsBody body value) :
    Covers (.text value :: tokens) (chars ++ '"' :: (body ++ ['"'])) := by
  obtain ⟨lexemes, hlayout, htokens⟩ := h
  refine ⟨lexemes ++ [.text value], hlayout.text hbody, ?_⟩
  simp [htokens, Lexeme.token?]

/-- What a scanner has read: its tokens, and then the start of a word or of a text. -/
inductive HasRead : List Char → Scanner → Prop where
  | between {tokens : List Token} {chars : List Char} (h : Covers tokens chars) :
      HasRead chars ⟨tokens, .between⟩
  | word {tokens : List Token} {chars spelled : List Char} (h : Covers tokens chars)
      (hne : spelled ≠ []) (hword : ∀ char ∈ spelled, isWordChar char = true) :
      HasRead (chars ++ spelled.reverse) ⟨tokens, .word spelled⟩
  | inner {tokens : List Token} {chars body : List Char} {piece : Piece}
      (h : Covers tokens chars) (hinner : piece.IsInner)
      (hbody : body.foldlM step? ⟨[], .text [] none⟩ = some ⟨[], piece⟩) :
      HasRead (chars ++ '"' :: body) ⟨tokens, piece⟩

theorem Covers.start? (h : Covers tokens chars) (hstart : start? tokens char = some next) :
    HasRead (chars ++ [char]) next := by
  unfold Scanner.start? at hstart
  split at hstart
  · next hblank =>
      cases hstart
      exact .between (h.blank hblank)
  · split at hstart
    · next hquote =>
        cases hstart
        rw [hquote]
        exact @HasRead.inner _ _ [] _ h .text rfl
    · split at hstart
      · next token hmark =>
          cases hstart
          exact .between (h.mark hmark)
      · split at hstart
        · next hword =>
            cases hstart
            exact @HasRead.word _ _ [char] h (by simp) (by simpa using hword)
        · cases hstart

theorem HasRead.step? (h : HasRead chars scanner) (hstep : step? scanner char = some next) :
    HasRead (chars ++ [char]) next := by
  cases h with
  | between hcovers => exact hcovers.start? hstep
  | @word tokens chars spelled hcovers hne hword =>
      unfold Scanner.step? at hstep
      simp only at hstep
      split_ifs at hstep with hchar
      · cases hstep
        have hlonger : ∀ other ∈ char :: spelled, isWordChar other = true :=
          List.forall_mem_cons.mpr ⟨hchar, hword⟩
        rw [List.append_assoc, ← List.reverse_cons]
        exact .word hcovers (List.cons_ne_nil char spelled) hlonger
      · obtain ⟨token, htoken, hstart⟩ := Option.bind_eq_some_iff.mp hstep
        refine (hcovers.word ?_ ?_ htoken).start? hstart
        · simpa using hne
        · simpa using hword
  | @inner tokens chars body piece hcovers hinner hbody =>
      rw [List.append_assoc, List.cons_append]
      -- The body is scanned again on its own, without the tokens before it.
      rcases step?_cases hinner hstep with
        ⟨inner, hnext, rfl, hrun⟩ | ⟨value, rfl, rfl, hrun⟩
      · refine .inner hcovers hnext ?_
        rw [List.foldlM_append, hbody]
        simpa using hrun
      · refine .between (hcovers.text ?_)
        rw [IsBody, List.foldlM_append, hbody]
        simpa using hrun

theorem HasRead.foldlM {rest : List Char} (h : HasRead chars scanner)
    (hrun : rest.foldlM Scanner.step? scanner = some next) : HasRead (chars ++ rest) next := by
  induction rest generalizing chars scanner with
  | nil =>
      cases hrun
      rwa [List.append_nil]
  | cons char rest ih =>
      rw [List.foldlM_cons] at hrun
      obtain ⟨stepped, hstep, hrun⟩ := Option.bind_eq_some_iff.mp hrun
      have hread := ih (h.step? hstep) hrun
      rwa [List.append_assoc, List.singleton_append] at hread

end Scanner

theorem exists_layout {chars : List Char} {tokens : List Token} (h : tokens? chars = some tokens) :
    ∃ lexemes, Layout chars lexemes ∧ lexemes.map Lexeme.token? = tokens.map some := by
  obtain ⟨scanner, hrun, hfinish⟩ := Option.bind_eq_some_iff.mp h
  have hread := Scanner.HasRead.foldlM (.between ⟨[], .nil, rfl⟩) hrun
  rw [List.nil_append] at hread
  cases hread with
  | between hcovers =>
      cases hfinish
      exact hcovers
  | word hcovers hne hword =>
      obtain ⟨token, htoken, hfinish⟩ := Option.bind_eq_some_iff.mp hfinish
      cases hfinish
      exact hcovers.word (by simpa using hne) (by simpa using hword) htoken
  | inner _ hinner _ => cases hinner <;> cases hfinish

/-! ## Spellings -/

/-- A document with its words and texts in place of what they are read as. -/
inductive Spelling where
  | word (chars : List Char)
  | text (value : String)
  | array (items : List Spelling)
  | object (members : List (String × Spelling))

def commaSeparated (parts : List (List Lexeme)) : List Lexeme := [.mark ','].intercalate parts

mutual

def Spelling.lexemes : Spelling → List Lexeme
  | .word chars => [.word chars]
  | .text value => [.text value]
  | .array items => .mark '[' :: commaSeparated (lexemesOfItems items) ++ [.mark ']']
  | .object members => .mark '\x7b' :: commaSeparated (lexemesOfMembers members) ++ [.mark '\x7d']

def lexemesOfItems : List Spelling → List (List Lexeme)
  | [] => []
  | item :: items => item.lexemes :: lexemesOfItems items

def lexemesOfMembers : List (String × Spelling) → List (List Lexeme)
  | [] => []
  | (key, value) :: members =>
      (.text key :: .mark ':' :: value.lexemes) :: lexemesOfMembers members

end

/-- The fields of an object: each key in its first place, with its last value. -/
def fieldsOf {α : Type} (members : List (String × α)) : List (String × α) :=
  members.foldl (fun fields member => insertField member.1 member.2 fields) []

inductive Spelling.Reads : Spelling → Json → Prop where
  | null {chars : List Char} (h : Token.ofWord? chars = some .null) : Reads (.word chars) .null
  | bool {chars : List Char} {value : Bool} (h : Token.ofWord? chars = some (.bool value)) :
      Reads (.word chars) (.bool value)
  | number {chars : List Char} {value : Number}
      (h : Token.ofWord? chars = some (.number value)) : Reads (.word chars) (.number value)
  | text (value : String) : Reads (.text value) (.text value)
  | array {items : List Spelling} {values : List Json} (h : List.Forall₂ Reads items values) :
      Reads (.array items) (.array values)
  | object {members : List (String × Spelling)} {fields : List (String × Json)}
      (hkeys : members.map (·.1) = fields.map (·.1))
      (h : List.Forall₂ Reads (members.map (·.2)) (fields.map (·.2))) :
      Reads (.object members) (.object (fieldsOf fields))

def Spelling.IsOf (spelling : Spelling) (chars : List Char) : Prop :=
  Layout chars spelling.lexemes

/-! ## Lists with commas -/

def Spelling.lexemesOfMember (member : String × Spelling) : List Lexeme :=
  .text member.1 :: .mark ':' :: member.2.lexemes

theorem lexemesOfItems_eq (items : List Spelling) :
    lexemesOfItems items = items.map Spelling.lexemes := by
  induction items with
  | nil => rfl
  | cons item items ih => rw [lexemesOfItems, ih, List.map_cons]

theorem lexemesOfMembers_eq (members : List (String × Spelling)) :
    lexemesOfMembers members = members.map Spelling.lexemesOfMember := by
  induction members with
  | nil => rfl
  | cons member members ih =>
      rw [lexemesOfMembers, ih, List.map_cons]
      rfl

def commaEnded (parts : List (List Lexeme)) : List Lexeme := parts.flatMap (· ++ [.mark ','])

theorem commaEnded_concat (parts : List (List Lexeme)) (last : List Lexeme) :
    commaEnded (parts ++ [last]) = commaEnded parts ++ (last ++ [.mark ',']) := by
  simp [commaEnded]

theorem commaSeparated_concat (parts : List (List Lexeme)) (last : List Lexeme) :
    commaSeparated (parts ++ [last]) = commaEnded parts ++ last := by
  induction parts with
  | nil => simp [commaSeparated, commaEnded, List.intercalate]
  | cons part parts ih =>
      have hsplit : commaSeparated (part :: (parts ++ [last])) =
          part ++ .mark ',' :: commaSeparated (parts ++ [last]) := by
        cases parts <;> simp [commaSeparated, List.intercalate]
      rw [List.cons_append, hsplit, ih]
      simp [commaEnded]

structure Spelling.ReadsAll (members : List (String × Spelling)) (fields : List (String × Json)) :
    Prop where
  keys_eq : members.map (·.1) = fields.map (·.1)
  reads : List.Forall₂ Reads (members.map (·.2)) (fields.map (·.2))

theorem Spelling.ReadsAll.concat {members : List (String × Spelling)}
    {fields : List (String × Json)} (h : ReadsAll members fields) {spelling : Spelling}
    {value : Json} (hvalue : spelling.Reads value) (key : String) :
    ReadsAll (members ++ [(key, spelling)]) (fields ++ [(key, value)]) := by
  obtain ⟨hkeys, hreads⟩ := h
  refine ⟨by simp [hkeys], ?_⟩
  simpa using List.rel_append hreads (.cons hvalue .nil)

theorem fieldsOf_concat {α : Type} (members : List (String × α)) (key : String) (value : α) :
    fieldsOf (members ++ [(key, value)]) = insertField key value (fieldsOf members) := by
  simp [fieldsOf]

/-! ## Lexemes of tokens -/

namespace Token

inductive Kind where
  | mark
  | word
  | text

def kind : Token → Kind
  | .null | .bool _ | .number _ => .word
  | .text _ => .text
  | _ => .mark

variable {token : Token}

theorem kind_of_mark? {char : Char} (h : mark? char = some token) : token.kind = .mark := by
  unfold mark? at h
  split at h <;> cases h <;> rfl

theorem kind_of_ofWord? {word : List Char} (h : ofWord? word = some token) :
    token.kind = .word := by
  unfold ofWord? at h
  split_ifs at h
  · cases h
    rfl
  · cases h
    rfl
  · cases h
    rfl
  · obtain ⟨value, -, rfl⟩ := Option.map_eq_some_iff.mp h
    rfl

theorem eq_of_mark? {first second : Char} (hfirst : mark? first = some token)
    (hsecond : mark? second = some token) : first = second := by
  unfold mark? at hfirst
  split at hfirst <;> cases hfirst <;> unfold mark? at hsecond <;> split at hsecond <;>
    first | rfl | cases hsecond

end Token

namespace Lexeme

variable {lexeme : Lexeme} {token : Token}

theorem kind_of_token? (h : lexeme.token? = some token) :
    token.kind = match lexeme with
      | .mark _ => .mark
      | .word _ => .word
      | .text _ => .text := by
  cases lexeme with
  | mark char => exact Token.kind_of_mark? h
  | word chars => exact Token.kind_of_ofWord? h
  | text value =>
      cases h
      rfl

theorem eq_mark (char : Char) (hmark : Token.mark? char = some token)
    (h : lexeme.token? = some token) : lexeme = .mark char := by
  have hkind := (kind_of_token? h).symm.trans (Token.kind_of_mark? hmark)
  cases lexeme with
  | mark other => rw [Token.eq_of_mark? h hmark]
  | word chars => cases hkind
  | text value => cases hkind

theorem exists_word (hkind : token.kind = .word) (h : lexeme.token? = some token) :
    ∃ chars, lexeme = .word chars ∧ Token.ofWord? chars = some token := by
  have hkinds := (kind_of_token? h).symm.trans hkind
  cases lexeme with
  | mark char => cases hkinds
  | word chars => exact ⟨chars, rfl, h⟩
  | text value => cases hkinds

theorem eq_text {value : String} (h : lexeme.token? = some (.text value)) :
    lexeme = .text value := by
  have hkind := kind_of_token? h
  cases lexeme with
  | mark char => cases hkind
  | word chars => cases hkind
  | text other =>
      cases h
      rfl

end Lexeme

/-! ## The reader -/

open Spelling (ReadsAll lexemesOfMember)

/-- The lexemes open the frames: each frame goes on in what follows, after the items or members
that it holds. -/
inductive Opens : List Frame → List Lexeme → Prop where
  | nil : Opens [] []
  | array {frames : List Frame} {outer : List Lexeme} {items : List Spelling}
      {reversed : List Json} (h : Opens frames outer)
      (hitems : List.Forall₂ Spelling.Reads items reversed.reverse) :
      Opens (.array reversed :: frames)
        (outer ++ .mark '[' :: commaEnded (items.map Spelling.lexemes))
  | object {frames : List Frame} {outer : List Lexeme} {members : List (String × Spelling)}
      {fields : List (String × Json)} (h : Opens frames outer)
      (hmembers : ReadsAll members fields) :
      Opens (.object (fieldsOf fields) :: frames)
        (outer ++ .mark '\x7b' :: commaEnded (members.map lexemesOfMember))
  | member {frames : List Frame} {outer : List Lexeme} {members : List (String × Spelling)}
      {fields : List (String × Json)} {key : String} (h : Opens frames outer)
      (hmembers : ReadsAll members fields) :
      Opens (.member (fieldsOf fields) key :: frames)
        (outer ++ .mark '\x7b' :: (commaEnded (members.map lexemesOfMember) ++
          [.text key, .mark ':']))

namespace Reader

/-- What a reader has read: the lexemes that open its frames, and then a value that it holds. -/
inductive HasRead : List Lexeme → Reader → Prop where
  | value {frames : List Frame} {outer : List Lexeme} (h : Opens frames outer) :
      HasRead outer (.expects .value frames)
  | firstItem {frames : List Frame} {outer : List Lexeme} (h : Opens frames outer) :
      HasRead (outer ++ [.mark '[']) (.expects .firstItem (.array [] :: frames))
  | firstKey {frames : List Frame} {outer : List Lexeme} (h : Opens frames outer) :
      HasRead (outer ++ [.mark '\x7b']) (.expects .firstKey (.object [] :: frames))
  | key {frames : List Frame} {outer : List Lexeme} {fields : List (String × Json)}
      (h : Opens (.object fields :: frames) outer) :
      HasRead outer (.expects .key (.object fields :: frames))
  | colon {frames : List Frame} {outer : List Lexeme}
      (h : Opens frames (outer ++ [.mark ':'])) : HasRead outer (.expects .colon frames)
  | holds {frames : List Frame} {outer : List Lexeme} {spelling : Spelling} {value : Json}
      (h : Opens frames outer) (hvalue : spelling.Reads value) :
      HasRead (outer ++ spelling.lexemes) (.holds value frames)

variable {depth : Nat} {lexeme : Lexeme} {token : Token} {lexemes : List Lexeme}
  {frames : List Frame} {reader next : Reader}

theorem HasRead.value? (h : Opens frames lexemes) (htoken : lexeme.token? = some token)
    (hvalue : value? depth frames token = some next) : HasRead (lexemes ++ [lexeme]) next := by
  cases token with
  | null =>
      obtain ⟨chars, rfl, hword⟩ := Lexeme.exists_word rfl htoken
      cases hvalue
      exact .holds h (.null hword)
  | bool value =>
      obtain ⟨chars, rfl, hword⟩ := Lexeme.exists_word rfl htoken
      cases hvalue
      exact .holds h (.bool hword)
  | number value =>
      obtain ⟨chars, rfl, hword⟩ := Lexeme.exists_word rfl htoken
      cases hvalue
      exact .holds h (.number hword)
  | text value =>
      obtain rfl := Lexeme.eq_text htoken
      cases hvalue
      exact .holds h (.text value)
  | openArray =>
      obtain rfl := Lexeme.eq_mark '[' rfl htoken
      simp only [Reader.value?] at hvalue
      split_ifs at hvalue
      cases hvalue
      exact .firstItem h
  | openObject =>
      obtain rfl := Lexeme.eq_mark '\x7b' rfl htoken
      simp only [Reader.value?] at hvalue
      split_ifs at hvalue
      cases hvalue
      exact .firstKey h
  | closeArray => cases hvalue
  | closeObject => cases hvalue
  | colon => cases hvalue
  | comma => cases hvalue

theorem HasRead.step?_holds {outer : List Lexeme} {spelling : Spelling} {value : Json}
    (h : Opens frames outer) (hvalue : spelling.Reads value)
    (htoken : lexeme.token? = some token)
    (hstep : step? depth (.holds value frames) token = some next) :
    HasRead (outer ++ spelling.lexemes ++ [lexeme]) next := by
  cases h with
  -- Nothing follows the outermost value, and an object that waits for a key takes none.
  | nil => cases token <;> cases hstep
  | object _ _ => cases token <;> cases hstep
  | @array frames outer items reversed houter hitems =>
      have hitem : List.Forall₂ Spelling.Reads (items ++ [spelling])
          (value :: reversed).reverse := by
        rw [List.reverse_cons]
        exact List.rel_append hitems (.cons hvalue .nil)
      cases token with
      | comma =>
          obtain rfl := Lexeme.eq_mark ',' rfl htoken
          cases hstep
          have hopens := Opens.array houter hitem
          rw [List.map_append, List.map_singleton, commaEnded_concat] at hopens
          simpa using HasRead.value hopens
      | closeArray =>
          obtain rfl := Lexeme.eq_mark ']' rfl htoken
          cases hstep
          have hread := HasRead.holds houter (.array hitem)
          rw [Spelling.lexemes, lexemesOfItems_eq, List.map_append, List.map_singleton,
            commaSeparated_concat] at hread
          simpa using hread
      | _ => cases hstep
  | @member frames outer members fields key houter hmembers =>
      have hmember := hmembers.concat hvalue key
      cases token with
      | comma =>
          obtain rfl := Lexeme.eq_mark ',' rfl htoken
          cases hstep
          have hopens := Opens.object houter hmember
          rw [List.map_append, List.map_singleton, commaEnded_concat, fieldsOf_concat] at hopens
          simpa [lexemesOfMember] using HasRead.key hopens
      | closeObject =>
          obtain rfl := Lexeme.eq_mark '\x7d' rfl htoken
          cases hstep
          have hread := HasRead.holds houter (.object hmember.keys_eq hmember.reads)
          rw [Spelling.lexemes, lexemesOfMembers_eq, List.map_append, List.map_singleton,
            commaSeparated_concat, fieldsOf_concat] at hread
          simpa [lexemesOfMember] using hread
      | _ => cases hstep

theorem HasRead.step? (h : HasRead lexemes reader) (htoken : lexeme.token? = some token)
    (hstep : step? depth reader token = some next) : HasRead (lexemes ++ [lexeme]) next := by
  cases h with
  | value hframes => exact .value? hframes htoken hstep
  | @firstItem frames outer hframes =>
      by_cases hclose : token = .closeArray
      · subst hclose
        obtain rfl := Lexeme.eq_mark ']' rfl htoken
        cases hstep
        rw [List.append_assoc]
        exact .holds hframes (.array .nil)
      · have hvalue : Reader.step? depth (.expects .firstItem (.array [] :: frames)) token =
            Reader.value? depth (.array [] :: frames) token := by
          cases token <;> first | rfl | exact absurd rfl hclose
        rw [hvalue] at hstep
        exact .value? (@Opens.array _ _ [] [] hframes .nil) htoken hstep
  | @firstKey frames outer hframes =>
      cases token with
      | closeObject =>
          obtain rfl := Lexeme.eq_mark '\x7d' rfl htoken
          cases hstep
          rw [List.append_assoc]
          exact .holds hframes (@Spelling.Reads.object [] [] rfl .nil)
      | text key =>
          obtain rfl := Lexeme.eq_text htoken
          cases hstep
          refine .colon ?_
          simpa [commaEnded, fieldsOf] using @Opens.member _ _ [] [] key hframes ⟨rfl, .nil⟩
      | _ => cases hstep
  | key hframes =>
      cases token with
      | text key =>
          obtain rfl := Lexeme.eq_text htoken
          cases hstep
          cases hframes with
          | object houter hmembers =>
              refine .colon ?_
              simpa using Opens.member houter hmembers
      | _ => cases hstep
  | colon hframes =>
      cases token with
      | colon =>
          obtain rfl := Lexeme.eq_mark ':' rfl htoken
          cases hstep
          exact .value hframes
      | _ => cases hstep
  | holds hframes hvalue => exact .step?_holds hframes hvalue htoken hstep

theorem HasRead.foldlM {rest : List Lexeme} {tokens : List Token} (h : HasRead lexemes reader)
    (htokens : rest.map Lexeme.token? = tokens.map some)
    (hrun : tokens.foldlM (Reader.step? depth) reader = some next) :
    HasRead (lexemes ++ rest) next := by
  induction tokens generalizing lexemes rest reader with
  | nil =>
      cases hrun
      rw [List.map_nil, List.map_eq_nil_iff] at htokens
      rwa [htokens, List.append_nil]
  | cons token tokens ih =>
      obtain ⟨lexeme, others, rfl, hlexeme, hothers⟩ := List.map_eq_cons_iff.mp htokens
      rw [List.foldlM_cons] at hrun
      obtain ⟨stepped, hstep, hrun⟩ := Option.bind_eq_some_iff.mp hrun
      have hread := ih (h.step? hlexeme hstep) hothers hrun
      rwa [List.append_assoc, List.singleton_append] at hread

end Reader

theorem exists_spelling {text : String} {document : Json} (h : read? text = some document) :
    ∃ spelling : Spelling, spelling.IsOf text.toList ∧ spelling.Reads document := by
  obtain ⟨tokens, htokens, h⟩ := Option.bind_eq_some_iff.mp h
  obtain ⟨reader, hrun, hfinish⟩ := Option.bind_eq_some_iff.mp h
  obtain ⟨lexemes, hlayout, hlexemes⟩ := exists_layout htokens
  have hread := Reader.HasRead.foldlM (.value .nil) hlexemes hrun
  rw [List.nil_append] at hread
  unfold Reader.finish? at hfinish
  split at hfinish
  · cases hfinish
    cases hread with
    | holds hframes hvalue =>
        cases hframes
        exact ⟨_, hlayout, hvalue⟩
  · cases hfinish

/-! ## Fields of objects -/

def ReadsField (member : String × Spelling) (field : String × Json) : Prop :=
  member.1 = field.1 ∧ member.2.Reads field.2

variable {members : List (String × Spelling)} {fields : List (String × Json)}

theorem Spelling.ReadsAll.forall₂ (h : ReadsAll members fields) :
    List.Forall₂ ReadsField members fields := by
  obtain ⟨hkeys, hreads⟩ := h
  induction members generalizing fields with
  | nil =>
      rw [List.map_nil, eq_comm, List.map_eq_nil_iff] at hkeys
      rw [hkeys]
      exact .nil
  | cons member members ih =>
      obtain ⟨field, others, rfl, hkey, hothers⟩ := List.map_eq_cons_iff.mp hkeys.symm
      cases hreads with
      | cons hvalue hrest => exact .cons ⟨hkey.symm, hvalue⟩ (ih hothers.symm hrest)

theorem forall₂_insertField (h : List.Forall₂ ReadsField members fields) (key : String)
    {spelling : Spelling} {value : Json} (hvalue : spelling.Reads value) :
    List.Forall₂ ReadsField (insertField key spelling members) (insertField key value fields) := by
  induction h with
  | nil => exact .cons ⟨rfl, hvalue⟩ .nil
  | @cons member field members fields hfield hrest ih =>
      unfold insertField
      rw [hfield.1]
      split
      · exact .cons ⟨rfl, hvalue⟩ hrest
      · exact .cons hfield ih

theorem forall₂_fieldsOf (h : List.Forall₂ ReadsField members fields) :
    List.Forall₂ ReadsField (fieldsOf members) (fieldsOf fields) := by
  have hfold : ∀ done read, List.Forall₂ ReadsField done read →
      List.Forall₂ ReadsField
        (members.foldl (fun fields member => insertField member.1 member.2 fields) done)
        (fields.foldl (fun fields field => insertField field.1 field.2 fields) read) := by
    induction h with
    | nil => exact fun _ _ hdone => hdone
    | @cons member field members fields hfield _ ih =>
        intro done read hdone
        rw [List.foldl_cons, List.foldl_cons, hfield.1]
        exact ih _ _ (forall₂_insertField hdone field.1 hfield.2)
  exact hfold [] [] .nil

end ListQuery.Json
