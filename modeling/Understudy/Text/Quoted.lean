import Understudy.Text.Unprintable
import Understudy.Text.GraphemeExtend

/-!
# Quoted text

Text shown inside a message stands between double quotes. The quote and the backslash are
escaped, the common control characters have short escapes, and every other character that has
no visible form or is drawn onto its neighbour is written by its code point, as `\u{301}`.
-/

namespace Understudy

/-- The written form of one character between the quotes. -/
def Quoted.escape (c : Char) : List Char :=
  if c = '"' then ['\\', '"']
  else if c = '\\' then ['\\', '\\']
  else if c = '\n' then ['\\', 'n']
  else if c = '\r' then ['\\', 'r']
  else if c = '\t' then ['\\', 't']
  else if c.toNat = 0 then ['\\', '0']
  else if extendsGrapheme c || !isPrintable c then
    ['\\', 'u', '{'] ++ Nat.toDigits 16 c.toNat ++ ['}']
  else [c]

/-- The text between double quotes, escaped where needed. -/
def quoted (text : String) : String :=
  String.ofList ('"' :: text.toList.flatMap Quoted.escape ++ ['"'])

end Understudy
