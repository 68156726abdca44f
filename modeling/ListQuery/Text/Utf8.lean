/-!
# Decoding UTF-8 with replacement

Octets that are not UTF-8 read as U+FFFD, one for each longest start of a character that
another octet cuts short, and one for each octet that starts no character.
-/

namespace ListQuery.Text.Utf8

/-- A character that is still short of continuation octets. -/
structure Partial where
  bits : Nat
  /-- How many continuation octets are owed, the next one included. -/
  owed : Nat
  least : Nat
  greatest : Nat
  deriving DecidableEq, Repr

def replacement : Char := '\uFFFD'

def Partial.start? (octet : Nat) : Option Partial :=
  if 0xC2 ≤ octet ∧ octet ≤ 0xDF then some ⟨octet % 0x20, 1, 0x80, 0xBF⟩
  else if octet = 0xE0 then some ⟨0, 2, 0xA0, 0xBF⟩
  else if octet = 0xED then some ⟨0xD, 2, 0x80, 0x9F⟩
  else if 0xE1 ≤ octet ∧ octet ≤ 0xEF then some ⟨octet % 0x10, 2, 0x80, 0xBF⟩
  else if octet = 0xF0 then some ⟨0, 3, 0x90, 0xBF⟩
  else if 0xF1 ≤ octet ∧ octet ≤ 0xF3 then some ⟨octet % 0x8, 3, 0x80, 0xBF⟩
  else if octet = 0xF4 then some ⟨4, 3, 0x80, 0x8F⟩
  else none

/-- Where the decoder stands between two octets, with the characters so far in reverse. -/
structure Decoder where
  decoded : List Char
  pending : Option Partial
  deriving DecidableEq, Repr

def Decoder.lead (decoded : List Char) (octet : Nat) : Decoder :=
  if octet < 0x80 then ⟨Char.ofNat octet :: decoded, none⟩
  else match Partial.start? octet with
    | some start => ⟨decoded, some start⟩
    | none => ⟨replacement :: decoded, none⟩

def Decoder.step (decoder : Decoder) (octet : Nat) : Decoder :=
  match decoder.pending with
  | none => lead decoder.decoded octet
  | some start =>
      if start.least ≤ octet ∧ octet ≤ start.greatest then
        let bits := start.bits * 0x40 + octet % 0x40
        if start.owed = 1 then ⟨Char.ofNat bits :: decoder.decoded, none⟩
        else ⟨decoder.decoded, some ⟨bits, start.owed - 1, 0x80, 0xBF⟩⟩
      else lead (replacement :: decoder.decoded) octet

def Decoder.finish (decoder : Decoder) : List Char :=
  match decoder.pending with
  | none => decoder.decoded.reverse
  | some _ => (replacement :: decoder.decoded).reverse

def decode (octets : List Nat) : String :=
  String.ofList (octets.foldl Decoder.step ⟨[], none⟩).finish

def encode (text : String) : List Nat :=
  (text.toList.flatMap String.utf8EncodeChar).map UInt8.toNat

example : decode [0x61, 0xC3, 0xA9, 0xF0, 0x9F, 0x98, 0x80] = "aé😀" := by decide
example : decode [0xF0, 0x9F, 0x98, 0x41, 0xE2, 0x28, 0xFF] = "\uFFFDA\uFFFD(\uFFFD" := by
  decide
example : decode [0xED, 0xA0, 0x80] = "\uFFFD\uFFFD\uFFFD" := by decide
example : encode "é" = [0xC3, 0xA9] := by decide

end ListQuery.Text.Utf8
