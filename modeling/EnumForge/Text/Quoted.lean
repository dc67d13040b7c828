import EnumForge.Text.Hex
import EnumForge.Unicode.Printable
import EnumForge.Unicode.GraphemeExtend
import EnumForge.Unicode.DefaultIgnorable

namespace EnumForge.Text

open EnumForge.Unicode

/-- The code point in braces, with the fewest lower-case digits. -/
def codePointEscape (c : Char) : List Char :=
  ['\\', 'u', '\x7b'] ++ hexLower c.toNat ++ ['\x7d']

/-- The halfwidth voicing signs: they extend the sign before them, yet take a place of their own. -/
def isVoicingSign (c : Char) : Bool := c == '\uff9e' || c == '\uff9f'

/-- Whether a reader sees the character, and sees it apart from the text around it. -/
def standsAlone (c : Char) : Bool :=
  isPrintable c && !isDefaultIgnorable c && (!isGraphemeExtend c || isVoicingSign c)

/-- Visible form of a character between double quotes. -/
def escape (c : Char) : List Char :=
  if c = '\x00' then ['\\', '0']
  else if c = '\t' then ['\\', 't']
  else if c = '\r' then ['\\', 'r']
  else if c = '\n' then ['\\', 'n']
  else if c = '\\' then ['\\', '\\']
  else if c = '"' then ['\\', '"']
  else if standsAlone c then [c]
  else codePointEscape c

/-- The text between double quotes, each character in its visible form. -/
def quoted (s : String) : String :=
  String.ofList ('"' :: s.toList.flatMap escape ++ ['"'])

end EnumForge.Text
