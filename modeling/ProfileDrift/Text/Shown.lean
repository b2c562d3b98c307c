import ProfileDrift.Text.Unseen

namespace ProfileDrift.Text

/-- A character as it stands inside a shown text. What leaves no mark of its own
is shown by its code point. -/
def shownChar (char : Char) : List Char :=
  if char = '"' then ['\\', '"']
  else if char = '\\' then ['\\', '\\']
  else if char = '\x00' then ['\\', '0']
  else if char = '\t' then ['\\', 't']
  else if char = '\n' then ['\\', 'n']
  else if char = '\r' then ['\\', 'r']
  else if isUnseen char then '\\' :: 'u' :: '\x7b' :: (Nat.toDigits 16 char.toNat ++ ['\x7d'])
  else [char]

/-- A text as a message shows it: in quotes, and so that two texts never look
the same. -/
def shown (text : String) : String :=
  String.ofList ('"' :: (text.toList.flatMap shownChar ++ ['"']))

end ProfileDrift.Text
