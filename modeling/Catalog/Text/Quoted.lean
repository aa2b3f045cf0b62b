import Catalog.Text.Class

/-!
Texts quoted for messages. Quotes, backslashes and the usual control characters get a backslash;
whatever would not show on its own is written by its code.
-/
namespace Catalog.Text

def codeNotation (c : Char) : List Char :=
  ['\\', 'u', '{'] ++ (hexText c.toNat).toList ++ ['}']

def quotedChar (c : Char) : List Char :=
  if c.toNat == 0 then ['\\', '0']
  else if c == '\t' then ['\\', 't']
  else if c == '\r' then ['\\', 'r']
  else if c == '\n' then ['\\', 'n']
  else if c == '"' then ['\\', '"']
  else if c == '\\' then ['\\', '\\']
  else if isCombining c || !isPrintable c then codeNotation c
  else [c]

def quoted (s : String) : String :=
  String.ofList ('"' :: (s.toList.flatMap quotedChar ++ ['"']))

end Catalog.Text
