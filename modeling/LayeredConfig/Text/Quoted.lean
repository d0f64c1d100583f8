import LayeredConfig.Text.Character

/-!
# Quoted text for diagnostics

A diagnostic shows a text in double quotes. Whatever would not be seen as itself is escaped: quotes,
backslashes, control characters, characters that are not printable, and characters that combine with
the one before them.
-/
set_option autoImplicit false

namespace LayeredConfig.Text

def codeEscape (c : Char) : List Char :=
  '\\' :: 'u' :: '\x7b' :: Nat.toDigits 16 c.toNat ++ ['\x7d']

def quotedChar (c : Char) : List Char :=
  if c = '\x00' then ['\\', '0']
  else if c = '\t' then ['\\', 't']
  else if c = '\n' then ['\\', 'n']
  else if c = '\r' then ['\\', 'r']
  else if c = '"' then ['\\', '"']
  else if c = '\\' then ['\\', '\\']
  else if isExtender c || !isPrintable c then codeEscape c
  else [c]

def quoted (text : String) : String :=
  String.ofList ('"' :: text.toList.flatMap quotedChar ++ ['"'])

end LayeredConfig.Text
