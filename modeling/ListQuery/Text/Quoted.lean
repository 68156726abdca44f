import ListQuery.Text.Blank
import ListQuery.Text.Extender
import ListQuery.Text.Ignorable
import ListQuery.Text.Unprintable

/-!
# Quoted text in descriptions

A description shows a text between double quotes, on one line and with every character
visible: quotes, backslashes and the common controls after a backslash; marks that would
join the character before them, characters that may leave no trace and characters without a
printed form by their code point.
-/

namespace ListQuery.Text

def isVisible (char : Char) : Bool :=
  !inRanges extenderRanges char && !inRanges ignorableRanges char &&
    !inRanges unprintableRanges char

def codePointEscape (char : Char) : List Char :=
  ['\\', 'u', '\x7b'] ++ Nat.toDigits 16 char.toNat ++ ['\x7d']

def quotedChar (char : Char) : List Char :=
  if char = '"' ∨ char = '\\' then ['\\', char]
  else if char = '\n' then ['\\', 'n']
  else if char = '\r' then ['\\', 'r']
  else if char = '\t' then ['\\', 't']
  else if char = '\x00' then ['\\', '0']
  else if isVisible char then [char]
  else codePointEscape char

def quoted (text : String) : String :=
  String.ofList ('"' :: text.toList.flatMap quotedChar ++ ['"'])

example : quoted "é'\"\n" = "\"é'\\\"\\n\"" := by decide +kernel
example : quoted "\uff76\uff9e\uffa0" = "\"\uff76\uff9e\\u\x7bffa0\x7d\"" := by decide +kernel
example : quoted "\u200b" = "\"\\u\x7b200b\x7d\"" := by decide +kernel

end ListQuery.Text
