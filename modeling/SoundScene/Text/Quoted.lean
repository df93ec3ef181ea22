import SoundScene.Text.Unprintable

/-!
The form in which a text is shown to a reader of an error message: between quotes, on one line,
with every character visible.
-/

namespace SoundScene.Text

/-- The code point in lower-case hexadecimal digits between braces. -/
def byNumber (c : Char) : List Char :=
  '\\' :: 'u' :: '{' :: Nat.toDigits 16 c.toNat ++ ['}']

def showChar (c : Char) : List Char :=
  if c = '\x00' then ['\\', '0']
  else if c = '\t' then ['\\', 't']
  else if c = '\n' then ['\\', 'n']
  else if c = '\r' then ['\\', 'r']
  else if c = '"' then ['\\', '"']
  else if c = '\\' then ['\\', '\\']
  else if isUnprintable c then byNumber c
  else [c]

def quoted (text : String) : String :=
  String.ofList ('"' :: text.toList.flatMap showChar ++ ['"'])

end SoundScene.Text
