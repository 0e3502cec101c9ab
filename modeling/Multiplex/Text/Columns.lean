import Multiplex.Text.Columns.Opening

/-! How many columns of a terminal a text takes. The text is read from its end, since a character
is drawn according to what follows it. -/

namespace Multiplex
namespace Columns

open Character

inductive Style
  | text
  | emoji
  | wide
  deriving DecidableEq

/-- Quotation marks have a wide form; characters with an emoji have both of the others. -/
def Style.ofSelector? (c : Char) : Option Style :=
  if c.toNat = 0xFE0E then some .text
  else if c.toNat = 0xFE0F then some .emoji
  else if c.toNat = 0xFE01 then some .wide
  else none

def isQuotationMark (c : Char) : Bool := within [(0x2018, 0x2019), (0x201C, 0x201D)] c

/-- What a text begins with: the opening, and what the selectors before it ask for. -/
structure Start where
  opening : Opening
  asked : List Style
  deriving DecidableEq

namespace Start

def plain : Start := ⟨.plain, []⟩

def asks (s : Start) (style : Style) : Bool := s.asked.contains style

/-- Selectors before a joined form add up. Before anything else the first one alone counts, and it
parts what it stands before, unless it asks for the emoji that a picture is joined from. -/
def select (style : Style) (s : Start) : Start :=
  if s.opening.isLigature then ⟨s.opening, s.asked.insert style⟩
  else if style = .emoji && s.opening.isJoinedEmoji then ⟨s.opening, [style]⟩
  else ⟨.plain, [style]⟩

def withoutEmoji (s : Start) : Start :=
  if !s.asks .emoji then s
  else if s.opening.isLigature then ⟨s.opening, s.asked.filter (· ≠ .emoji)⟩
  else plain

end Start

def drawn (c : Char) (o : Opening) : Int × Start :=
  match o.front? c with
  | some (n, o) => (n, ⟨o, []⟩)
  | none => (ofChar c, ⟨.ofChar c, []⟩)

def placePlain (c : Char) (next : Start) : Int × Start :=
  if c.toNat ≤ 0xA0 then (1, .plain)
  else match Style.ofSelector? c with
  | some style => (0, next.select style)
  | none =>
    if next.asks .text && isTextual c then (1, .plain)
    else if next.asks .wide && isQuotationMark c then (2, .plain)
    else drawn c next.opening

/-- The columns that a character adds before a text, and what the text begins with then. -/
def place (c : Char) (next : Start) : Int × Start :=
  if next.asks .emoji && within styledRanges c then
    (if next.opening.isJoinedEmoji then 0 else 2, ⟨.emoji, []⟩)
  else placePlain c next.withoutEmoji

def measure (text : List Char) : Int × Start :=
  text.foldr (fun c after => let (k, start) := place c after.2; (after.1 + k, start)) (0, .plain)

def width (text : String) : Nat := (measure text.toList).1.toNat

end Columns
end Multiplex
