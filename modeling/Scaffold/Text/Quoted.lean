import Scaffold.Text.DefaultIgnorable
import Scaffold.Text.GraphemeExtend
import Scaffold.Text.Unprintable

/-!
Texts in double quotes, as error messages show them.  Quotes and backslashes are escaped, and so is
every character that does not show or would merge with its neighbour, so that a message never hides
part of a name.
-/

namespace Scaffold.Text

def escape (c : Char) : String :=
  if c = '"' then "\\\""
  else if c = '\\' then "\\\\"
  else if c = '\n' then "\\n"
  else if c = '\r' then "\\r"
  else if c = '\t' then "\\t"
  else if c = '\x00' then "\\0"
  else if IsCombining c ∨ IsUnprintable c ∨ IsDefaultIgnorable c then
    "\\u\x7b" ++ .ofList (Nat.toDigits 16 c.toNat) ++ "\x7d"
  else c.toString

def quote (text : String) : String :=
  "\"" ++ String.join (text.toList.map escape) ++ "\""

end Scaffold.Text
