import Community.Text.Hex
import Community.Text.Printable

/-!
# Quoted text in messages

A message that shows a text it was given puts it between double quotes and escapes what would
hide its limits: the quote, the backslash, line ends, tabs, NUL, and by number every
character that is not plain.
-/

namespace Community.Text

/-- The form of one character inside quotes. -/
def quoteChar (c : Char) : List Char :=
  if c = '\x22' then ['\\', '\x22']
  else if c = '\\' then ['\\', '\\']
  else if c = '\n' then ['\\', 'n']
  else if c = '\r' then ['\\', 'r']
  else if c = '\t' then ['\\', 't']
  else if c.toNat = 0 then ['\\', '0']
  else if isPlain c then [c]
  else ['\\', 'u', '\x7b'] ++ hex c.toNat ++ ['\x7d']

/-- The text between double quotes, with its characters escaped where needed. -/
def quoted (s : String) : String :=
  "\"" ++ String.ofList (s.toList.flatMap quoteChar) ++ "\""

end Community.Text
