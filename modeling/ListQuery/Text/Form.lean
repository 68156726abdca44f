import ListQuery.Text.Cut
import ListQuery.Text.Hex
import ListQuery.Text.Utf8

/-!
# Forms in addresses

The part of an address after the question mark holds pairs of a key and a value between
ampersands and ends before a number sign.  In keys and values a plus stands for a space and
a percent sign with two hexadecimal digits for an octet.
-/

namespace ListQuery.Text.Form

def octets : List Char → List Nat
  | '%' :: high :: low :: rest =>
      match hexDigit? high, hexDigit? low with
      | some high, some low => (high * 16 + low) :: octets rest
      | _, _ => '%'.toNat :: octets (high :: low :: rest)
  | '+' :: rest => ' '.toNat :: octets rest
  | char :: rest => (String.utf8EncodeChar char).map UInt8.toNat ++ octets rest
  | [] => []

def decode (text : String) : String := Utf8.decode (octets text.toList)

/-- A key and its value, which is empty where nothing says what it is. -/
def pair (text : String) : String × String :=
  let (key, value) := (cutAt? '=' text).getD (text, "")
  (decode key, decode value)

def pairs (text : String) : List (String × String) :=
  let form := ((cutAt? '#' text).map Prod.fst).getD text
  ((splitOn '&' form).filter (¬ ·.isEmpty)).map pair

example : pairs "a=1+2&&b=%C3%A9%zz#c=3" = [("a", "1 2"), ("b", "é%zz")] := by decide +kernel
example : pairs "k&=v=w" = [("k", ""), ("", "v=w")] := by decide +kernel

end ListQuery.Text.Form
