import Multiplex.Text.Character
import Multiplex.Text.Columns.Emoji
import Multiplex.Text.Columns.Wide
import Multiplex.Text.Columns.Zero

/-! The columns of a character that stands alone. -/

namespace Multiplex
namespace Columns

open Character

def isFlagLetter (c : Char) : Bool := within [(0x1F1E6, 0x1F1FF)] c

def isSkinTone (c : Char) : Bool := within [(0x1F3FB, 0x1F3FF)] c

def isEmoji (c : Char) : Bool := within emojiRanges c

/-- An emoji that a selector turns into text of one column. Framed ideographs keep two. -/
def isTextual (c : Char) : Bool :=
  within styledRanges c && isEmoji c && !within [(0x1F200, 0x1F2FF)] c

/-- Control characters are counted like letters. The mark that stacks two Tifinagh letters is
seen where it stands alone, and one Khmer sign stands for a word of three columns. -/
def ofChar (c : Char) : Nat :=
  if c.toNat ≤ 0xA0 then 1
  else if c.toNat = 0x2D7F then 1
  else if c.toNat = 0x17D8 then 3
  else if isExtending c || within zeroRanges c then 0
  else if within wideRanges c || isEmoji c then 2
  else 1

end Columns
end Multiplex
