/-! Channel numbers. Channel 0 carries the connection's own methods and is always open; the
others are handed out one conversation each. -/

namespace Multiplex

abbrev ChannelId := UInt16

namespace ChannelId

/-- The channel of the connection itself. -/
def connection : ChannelId := 0

/-- The highest number a frame can carry. -/
def highest : ChannelId := 65535

def label (c : ChannelId) : String := if c = connection then "CONNECTION" else "CHANNEL"

/-- A broker that sets no bound of its own advertises zero. -/
def bound (advertised : ChannelId) : ChannelId := if advertised = 0 then highest else advertised

theorem bound_ne_zero (advertised : ChannelId) : bound advertised ≠ 0 := by
  unfold bound
  split
  · decide
  · assumption

end ChannelId
end Multiplex
