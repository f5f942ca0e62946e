import SqlLexer.Text.Basic
import SqlLexer.Unicode.ExtendingMark
import SqlLexer.Unicode.Invisible

/-!
# Texts in listings

A listing shows a text in double quotes on one line.  Quotes, backslashes and the common
controls take a backslash; characters that would not be seen on their own are given by their
code point in braces; every other character stands for itself.
-/

namespace SqlLexer
namespace Text

/-- Whether a listing gives a character by its code point. -/
def isHidden (c : Char) : Bool :=
  Unicode.invisible.contains c || Unicode.extendingMark.contains c

/-- The form of one character in a listing. -/
def listedChar (c : Char) : Text :=
  if c = '\x00' then ['\\', '0']
  else if c = '\t' then ['\\', 't']
  else if c = '\r' then ['\\', 'r']
  else if c = '\n' then ['\\', 'n']
  else if c = '\x22' then ['\\', '\x22']
  else if c = '\\' then ['\\', '\\']
  else if isHidden c then ['\\', 'u', '\x7b'] ++ hexadecimal c.toNat ++ ['\x7d']
  else [c]

/-- The form of a text in a listing. -/
def listed (text : Text) : Text :=
  '\x22' :: (text.flatMap listedChar ++ ['\x22'])

end Text
end SqlLexer
