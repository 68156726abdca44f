import ListQuery.Json.Number
import ListQuery.Text.Hex

/-!
# Tokens of documents

A scanner reads a document one character at a time.  Between tokens it passes over spaces,
tabs and line ends; a word runs to the first character that no word holds; a text runs to
the quote that closes it.  A text holds no control characters below U+0020, and its escapes
of surrogates come in pairs.
-/

namespace ListQuery.Json

inductive Token where
  | openArray
  | closeArray
  | openObject
  | closeObject
  | colon
  | comma
  | null
  | bool (value : Bool)
  | number (value : Number)
  | text (value : String)
  deriving DecidableEq, Repr

namespace Token

def mark? : Char → Option Token
  | '[' => some .openArray
  | ']' => some .closeArray
  | '\x7b' => some .openObject
  | '\x7d' => some .closeObject
  | ':' => some .colon
  | ',' => some .comma
  | _ => none

def ofWord? (word : List Char) : Option Token :=
  if word = "null".toList then some .null
  else if word = "true".toList then some (.bool true)
  else if word = "false".toList then some (.bool false)
  else (Number.ofChars? word).map .number

end Token

/-! ## The scanner -/

/-- The token that is being read, its characters in reverse.  In a text, `high` is the first
half of a pair of surrogates whose second half has to follow. -/
inductive Piece where
  | between
  | word (spelled : List Char)
  | text (spelled : List Char) (high : Option Nat)
  | escape (spelled : List Char) (high : Option Nat)
  | codePoint (spelled : List Char) (high : Option Nat) (digits value : Nat)
  deriving DecidableEq, Repr

structure Scanner where
  tokens : List Token
  piece : Piece
  deriving DecidableEq, Repr

namespace Scanner

def isSpace (char : Char) : Bool :=
  char = ' ' || char = '\t' || char = '\n' || char = '\r'

def isWordChar (char : Char) : Bool :=
  char.isAlphanum || char = '-' || char = '+' || char = '.'

def escaped? : Char → Option Char
  | '"' => some '"'
  | '\\' => some '\\'
  | '/' => some '/'
  | 'b' => some '\x08'
  | 'f' => some '\x0c'
  | 'n' => some '\n'
  | 'r' => some '\r'
  | 't' => some '\t'
  | _ => none

def unit? (spelled : List Char) (high : Option Nat) (value : Nat) : Option Piece :=
  let isHigh := 0xD800 ≤ value && value < 0xDC00
  let isLow := 0xDC00 ≤ value && value < 0xE000
  match high with
  | none =>
      if isHigh then some (.text spelled (some value))
      else if isLow then none
      else some (.text (Char.ofNat value :: spelled) none)
  | some first =>
      if isLow then
        let point := 0x10000 + (first - 0xD800) * 0x400 + (value - 0xDC00)
        some (.text (Char.ofNat point :: spelled) none)
      else none

def start? (tokens : List Token) (char : Char) : Option Scanner :=
  if isSpace char then some ⟨tokens, .between⟩
  else if char = '"' then some ⟨tokens, .text [] none⟩
  else match Token.mark? char with
    | some token => some ⟨token :: tokens, .between⟩
    | none => if isWordChar char then some ⟨tokens, .word [char]⟩ else none

def step? (scanner : Scanner) (char : Char) : Option Scanner :=
  match scanner.piece with
  | .between => start? scanner.tokens char
  | .word spelled =>
      if isWordChar char then some { scanner with piece := .word (char :: spelled) }
      else do
        let token ← Token.ofWord? spelled.reverse
        start? (token :: scanner.tokens) char
  | .text spelled high =>
      if char = '\\' then some { scanner with piece := .escape spelled high }
      else if high.isSome || char < ' ' then none
      else if char = '"' then
        some ⟨.text (String.ofList spelled.reverse) :: scanner.tokens, .between⟩
      else some { scanner with piece := .text (char :: spelled) none }
  | .escape spelled high =>
      if char = 'u' then some { scanner with piece := .codePoint spelled high 0 0 }
      else if high.isSome then none
      else do
        let value ← escaped? char
        some { scanner with piece := .text (value :: spelled) none }
  | .codePoint spelled high digits value => do
      let digit ← Text.hexDigit? char
      let value := value * 16 + digit
      if digits = 3 then
        let piece ← unit? spelled high value
        some { scanner with piece := piece }
      else some { scanner with piece := .codePoint spelled high (digits + 1) value }

def finish? (scanner : Scanner) : Option (List Token) :=
  match scanner.piece with
  | .between => some scanner.tokens.reverse
  | .word spelled => do
      let token ← Token.ofWord? spelled.reverse
      some (token :: scanner.tokens).reverse
  | _ => none

end Scanner

def tokens? (chars : List Char) : Option (List Token) := do
  let scanner ← chars.foldlM Scanner.step? ⟨[], .between⟩
  scanner.finish?

end ListQuery.Json
