import RuleGate.Unicode.Property

/-!
Texts as error messages show them: between quotes, with an escape for every character that would not
be seen as itself.
-/

namespace RuleGate.Text

/-- The escape of a character by its code point, in lower-case hexadecimal digits. -/
def codePointEscape (c : Char) : List Char :=
  '\\' :: 'u' :: '\x7b' :: (Nat.toDigits 16 c.toNat ++ ['\x7d'])

/-- A character as it is shown. Quotes, backslashes and the common control characters have short
escapes; characters that extend the one before them, and those that do not print, are shown by
their code points. -/
def shownChar (c : Char) : List Char :=
  if c = '\x00' then ['\\', '0']
  else if c = '\t' then ['\\', 't']
  else if c = '\r' then ['\\', 'r']
  else if c = '\n' then ['\\', 'n']
  else if c = '\\' then ['\\', '\\']
  else if c = '"' then ['\\', '"']
  else if Unicode.graphemeExtend.contains c.toNat then codePointEscape c
  else if Unicode.printable.contains c.toNat then [c]
  else codePointEscape c

def shown (s : String) : String :=
  String.ofList ('"' :: s.toList.flatMap shownChar ++ ['"'])

end RuleGate.Text
