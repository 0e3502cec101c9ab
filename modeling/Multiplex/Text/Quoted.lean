import Multiplex.Text.Character

/-! Text between double quotes. Both forms escape what would end the text or could not be read
back. The one for diagnostics escapes all that a reader could not see, too. -/

namespace Multiplex
namespace Quoted

def hex (n : Nat) : List Char := Nat.toDigits 16 n

def jsonEscape? (c : Char) : Option (List Char) :=
  if c = '"' then some ['\\', '"']
  else if c = '\\' then some ['\\', '\\']
  else if c = '\n' then some ['\\', 'n']
  else if c = '\r' then some ['\\', 'r']
  else if c = '\t' then some ['\\', 't']
  else if c.toNat = 8 then some ['\\', 'b']
  else if c.toNat = 12 then some ['\\', 'f']
  else if c.toNat < 16 then some (['\\', 'u', '0', '0', '0'] ++ hex c.toNat)
  else if c.toNat < 32 then some (['\\', 'u', '0', '0'] ++ hex c.toNat)
  else none

/-- The escape of a character in a diagnostic, if it needs one. What leaves no mark of its own, or
would be shown as a part of the character before it, is written as its code point in braces. -/
def plainEscape? (c : Char) : Option (List Char) :=
  if c = '"' then some ['\\', '"']
  else if c = '\\' then some ['\\', '\\']
  else if c = '\n' then some ['\\', 'n']
  else if c = '\r' then some ['\\', 'r']
  else if c = '\t' then some ['\\', 't']
  else if c.toNat = 0 then some ['\\', '0']
  else if Character.isExtending c || !Character.isPrintable c then
    some (['\\', 'u', '\x7b'] ++ hex c.toNat ++ ['\x7d'])
  else none

def quote (escape? : Char → Option (List Char)) (text : String) : String :=
  String.ofList ('"' :: (text.toList.flatMap fun c => (escape? c).getD [c]) ++ ['"'])

def json : String → String := quote jsonEscape?

def plain : String → String := quote plainEscape?

end Quoted
end Multiplex
