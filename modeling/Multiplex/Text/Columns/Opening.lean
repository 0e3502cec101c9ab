import Multiplex.Text.Columns.Joining
import Multiplex.Text.Columns.Single

/-! What a text begins with, as far as it changes the columns of a character put in front of it.
Some letters flow into the one before them, and a sequence of emoji is shown as one picture. -/

namespace Multiplex
namespace Columns

open Character

/-- Where a form is drawn only around a zero width joiner, `joined` tells whether one is there. -/
inductive Opening
  | plain
  | arabicAlef
  | hebrewLamed (joined : Bool)
  | bugineseYa (joined : Bool)
  | bugineseVowelYa
  | tifinagh (joined : Bool)
  | tifinaghStack
  | lisuTone
  | turkicI (joined : Bool)
  | khmerBase
  | kiratE
  | kiratAi
  | emoji
  | skinTone
  | flagLetter
  | flagLetters
  | joinedEmoji
  | joinedKeycap
  | joinedFlagLetter
  | joinedFlag
  | joinedFlags
  | tagLetters (n : Nat)
  | tagDigits (n : Nat)
  deriving DecidableEq

namespace Opening

def alefRanges : List (Nat × Nat) :=
  [(0x622, 0x623), (0x625, 0x625), (0x627, 0x627), (0x671, 0x673), (0x675, 0x675),
   (0x773, 0x774), (0x870, 0x882)]

def lamRanges : List (Nat × Nat) :=
  [(0x644, 0x644), (0x6B5, 0x6B8), (0x76A, 0x76A), (0x8A6, 0x8A6), (0x8C7, 0x8C7)]

def tifinaghRanges : List (Nat × Nat) := [(0x2D31, 0x2D65), (0x2D6F, 0x2D6F)]

def khmerRanges : List (Nat × Nat) :=
  [(0x1780, 0x1782), (0x1784, 0x1787), (0x1789, 0x178C), (0x178E, 0x1793), (0x1795, 0x1798),
   (0x179B, 0x179D), (0x17A0, 0x17A0), (0x17A2, 0x17A2), (0x17A7, 0x17A7), (0x17AB, 0x17AC),
   (0x17AF, 0x17AF)]

/-- Marks without a shape of their own, which do not part the letters of a joined form. -/
def fillerRanges : List (Nat × Nat) :=
  [(0x34F, 0x34F), (0x17B4, 0x17B5), (0x180B, 0x180D), (0x180F, 0x180F), (0xFE00, 0xFE0F),
   (0xE0100, 0xE01EF)]

def isJoiner (c : Char) : Bool := c.toNat = 0x200D

def ofChar (c : Char) : Opening :=
  if c.toNat ≤ 0xA0 then plain
  else if within alefRanges c then arabicAlef
  else if c.toNat = 0x5DC then hebrewLamed false
  else if c.toNat = 0x1A10 then bugineseYa false
  else if within tifinaghRanges c then tifinagh false
  else if within [(0xA4FC, 0xA4FD)] c then lisuTone
  else if c.toNat = 0x10C03 then turkicI false
  else if within khmerRanges c then khmerBase
  else if c.toNat = 0x16D67 then kiratE
  else if c.toNat = 0x16D68 then kiratAi
  else if isFlagLetter c then flagLetter
  else if isSkinTone c then skinTone
  else if isEmoji c then emoji
  else plain

/-- Joined forms with letters; these outlast the selectors before them. -/
def isLigature : Opening → Bool
  | arabicAlef | hebrewLamed _ | bugineseYa _ | bugineseVowelYa | tifinagh _ | tifinaghStack
  | lisuTone | turkicI _ | khmerBase => true
  | _ => false

def isJoinedEmoji : Opening → Bool
  | joinedEmoji | joinedKeycap => true
  | _ => false

def join : Opening → Opening
  | hebrewLamed _ => hebrewLamed true
  | bugineseYa _ => bugineseYa true
  | tifinagh _ => tifinagh true
  | turkicI _ => turkicI true
  | o => o

/-- A mark inside a joined form. Arabic letters are parted by a joiner but by few other marks. -/
def inside? (c : Char) (o : Opening) : Option (Int × Opening) :=
  if !o.isLigature then none
  else if o = arabicAlef then
    if Columns.ofChar c = 0 && !within partingRanges c then some (0, o) else none
  else if isJoiner c then some (0, o.join)
  else if within fillerRanges c then some (0, o)
  else none

/-- A letter that completes a joined form. A stacked pair takes the columns of one letter, so what
the second one and the mark between them had taken is given back. -/
def letter? (c : Char) : Opening → Option (Int × Opening)
  | arabicAlef => if within lamRanges c then some (0, plain) else none
  | hebrewLamed true => if c.toNat = 0x5D0 then some (0, plain) else none
  | bugineseYa true => if c.toNat = 0x1A17 then some (0, bugineseVowelYa) else none
  | bugineseVowelYa => if c.toNat = 0x1A15 then some (0, plain) else none
  | tifinagh joined =>
    if c.toNat = 0x2D7F then some (1, tifinaghStack)
    else if joined && within tifinaghRanges c then some (0, plain)
    else none
  | tifinaghStack => if within tifinaghRanges c then some (-1, plain) else none
  | lisuTone => if within [(0xA4F8, 0xA4FB)] c then some (0, plain) else none
  | turkicI true => if c.toNat = 0x10C32 then some (0, plain) else none
  | khmerBase => if c.toNat = 0x17D2 then some (-1, plain) else none
  | kiratE =>
    if c.toNat = 0x16D63 || c.toNat = 0x16D69 then some (0, plain)
    else if c.toNat = 0x16D67 then some (0, kiratAi)
    else if c.toNat = 0x16D68 then some (1, kiratE)
    else none
  | kiratAi => if c.toNat = 0x16D63 then some (0, plain) else none
  | _ => none

def tag? (c : Char) : Opening → Option Opening
  | tagLetters n =>
    if n < 6 && within [(0xE0061, 0xE007A)] c then some (tagLetters (n + 1))
    else if n < 5 && within [(0xE0030, 0xE0039)] c then some (tagDigits 1)
    else none
  | tagDigits n =>
    if n < 3 && within [(0xE0030, 0xE0039)] c then some (tagDigits (n + 1)) else none
  | _ => none

/-- The tags of a region: three to six letters, or three digits before at most four letters. -/
def isRegion : Opening → Bool
  | tagLetters n => 3 ≤ n
  | tagDigits n => n = 3
  | _ => false

/-- What joins two emoji stands before one picture, whose columns are taken already. -/
def isPicture : Opening → Bool
  | emoji | skinTone | flagLetters | joinedFlag | joinedFlags => true
  | _ => false

/-- A character that completes a sequence of emoji. Two letters make one flag. -/
def picture? (c : Char) (o : Opening) : Option (Int × Opening) :=
  if o.isPicture && isJoiner c then some (0, joinedEmoji)
  else if o.isRegion && c.toNat = 0x1F3F4 then some (0, emoji)
  else if let some tags := o.tag? c then some (0, tags)
  else match o with
  | skinTone => if within tonedRanges c then some (0, emoji) else none
  | flagLetter | flagLetters => if isFlagLetter c then some (1, flagLetters) else none
  | joinedEmoji =>
    if c.toNat = 0x20E3 then some (0, joinedKeycap)
    else if c.toNat = 0xE007F then some (0, tagLetters 0)
    else if isFlagLetter c then some (1, joinedFlagLetter)
    else if isSkinTone c then some (0, skinTone)
    else if isEmoji c then some (0, emoji)
    else none
  | joinedFlagLetter | joinedFlags => if isFlagLetter c then some (-1, joinedFlag) else none
  | joinedFlag => if isFlagLetter c then some (3, joinedFlags) else none
  | _ => none

def front? (c : Char) (o : Opening) : Option (Int × Opening) :=
  (o.letter? c).or ((o.inside? c).or (o.picture? c))

end Opening
end Columns
end Multiplex
