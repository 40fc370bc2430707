import Stepwise.Text.Numeral
import Stepwise.Unicode.Hidden

namespace Stepwise.Text.Quoted

def escape (c : Char) : List Char :=
  if c = '"' then ['\\', '"']
  else if c = '\\' then ['\\', '\\']
  else if c = '\n' then ['\\', 'n']
  else if c = '\r' then ['\\', 'r']
  else if c = '\t' then ['\\', 't']
  else if c.toNat = 0 then ['\\', '0']
  else if Unicode.Hidden.isHidden c then
    '\\' :: 'u' :: '\x7b' :: Nat.toDigits 16 c.toNat ++ ['\x7d']
  else [c]

/-- The text in quotes for a reader of messages: what does not show on a page of its own is written
as an escape. -/
def write (s : String) : String := String.ofList ('"' :: s.toList.flatMap escape ++ ['"'])

end Stepwise.Text.Quoted
