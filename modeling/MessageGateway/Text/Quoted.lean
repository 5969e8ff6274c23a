import MessageGateway.Text.Printable

/-!
# Quoted texts

A text in quotes as error messages show it: quotes and backslashes are escaped, and every character
that does not print as itself stands as its number.

## Main definitions

* `quotedChar c`: a character as it stands in quotes
* `quoted s`: the text in quotes
-/

namespace MessageGateway.Text

/-- A character as it stands in quotes. -/
def quotedChar (c : Char) : List Char :=
  if c = '"' then ['\\', '"']
  else if c = '\\' then ['\\', '\\']
  else if c = '\t' then ['\\', 't']
  else if c = '\n' then ['\\', 'n']
  else if c = '\r' then ['\\', 'r']
  else if c = '\x00' then ['\\', '0']
  else if isPrintable c then [c]
  else '\\' :: 'u' :: '\x7b' :: Nat.toDigits 16 c.toNat ++ ['\x7d']

/-- The text in quotes. -/
def quoted (s : String) : String :=
  String.ofList ('"' :: s.toList.flatMap quotedChar ++ ['"'])

end MessageGateway.Text
