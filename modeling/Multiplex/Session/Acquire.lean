import Multiplex.Session.Call
import Multiplex.Session.Close

/-! Handing channels out. An idle channel is handed out again without a word to the broker; else
the next free number is reserved and opened. A number whose opening failed goes back only once the
broker is known not to hold it open. -/

namespace Multiplex
namespace Session

variable {σ : Type} [Link σ]
open Multiplex.Action

/-- The number tried after `c`, up to `max` and round again from 1. -/
def following (max c : ChannelId) : ChannelId := if max ≤ c then 1 else c + 1

theorem following_ne_connection (max c : ChannelId) : following max c ≠ .connection := by
  unfold following ChannelId.connection
  grind

theorem following_le {max : ChannelId} (h : max ≠ 0) (c : ChannelId) : following max c ≤ max := by
  unfold following
  grind

/-- The first number in turn that is not open, among as many as are tried. -/
def firstFree (s : Session) (max : ChannelId) : Nat → ChannelId → Option ChannelId
  | 0, _ => none
  | tries + 1, c =>
    if s.isOpen (following max c) then firstFree s max tries (following max c)
    else some (following max c)

def reservable (s : Session) (max : ChannelId) : Option ChannelId :=
  if max.toNat ≤ s.openCount then none else s.firstFree max max.toNat s.lastId

theorem firstFree_eq_some {s : Session} {max : ChannelId} (h : max ≠ 0) {tries : Nat}
    {c d : ChannelId} (found : s.firstFree max tries c = some d) :
    s.isOpen d = false ∧ d ≠ .connection ∧ d ≤ max := by
  induction tries generalizing c with
  | zero => simp [firstFree] at found
  | succ tries ih =>
    unfold firstFree at found
    split at found
    · exact ih found
    · rename_i free
      obtain rfl := Option.some.inj found
      exact ⟨by simpa using free, following_ne_connection max c, following_le h c⟩

theorem reservable_eq_some {s : Session} {max c : ChannelId} (h : max ≠ 0)
    (free : s.reservable max = some c) :
    s.openCount < max.toNat ∧ s.isOpen c = false ∧ c ≠ .connection ∧ c ≤ max := by
  unfold reservable at free
  split at free
  · simp at free
  · rename_i room
    exact ⟨by omega, firstFree_eq_some h free⟩

/-- Take a number with an empty queue; the next search starts behind it. -/
def hold (s : Session) (c : ChannelId) : Session := { s.setQueue c .empty with lastId := c }

@[simp] theorem queue_hold (s : Session) (a b : ChannelId) :
    (s.hold a).queue b = if a = b then .empty else s.queue b :=
  s.queue_setQueue a b .empty

@[simp] theorem isOpen_hold (s : Session) (a b : ChannelId) :
    (s.hold a).isOpen b = (decide (a = b) || s.isOpen b) :=
  s.isOpen_setQueue a b .empty

theorem openCount_hold_le (s : Session) (c : ChannelId) :
    (s.hold c).openCount ≤ s.openCount + 1 := by
  have := Std.ExtTreeMap.size_insert_le (t := s.queues) (k := c) (v := Queue.empty)
  simp only [openCount, hold, setQueue]
  omega

def reserve : Action σ ChannelId where
  run s link :=
    let max := ChannelId.bound (Link.channelMax link)
    match s.reservable max with
    | some c => ⟨.ok c, [.reserved c], s.hold c, link⟩
    | none => ⟨.error (.tooManyChannels max), [], s, link⟩

theorem run_reserve_of_none {s : Session} {link : σ}
    (full : s.reservable (ChannelId.bound (Link.channelMax link)) = none) :
    reserve.run s link =
      ⟨.error (.tooManyChannels (ChannelId.bound (Link.channelMax link))), [], s, link⟩ := by
  simp [reserve, full]

theorem run_reserve_of_some {s : Session} {link : σ} {c : ChannelId}
    (free : s.reservable (ChannelId.bound (Link.channelMax link)) = some c) :
    reserve.run s link = ⟨.ok c, [.reserved c], s.hold c, link⟩ := by
  simp [reserve, free]

def openReserved (c : ChannelId) : Action σ Unit := do
  let _ ← call c .channelOpen [.channelOpenOk]
  let s ← session
  if s.settings.confirmSelect then
    let _ ← call c (.confirmSelect false) [.confirmSelectOk]
    pure ()
  else pure ()

/-- Undo a reservation whose opening failed. The broker may hold the channel open, so unless the
connection is lost it is closed first; if that fails the number stays reserved. -/
def abandon (c : ChannelId) (cause : SessionError) : Action σ Unit := do
  let s ← session
  if s.isOpen c then
    if cause.isFatal ∨ s.connection ≠ .open then
      change (·.dropQueue c) [.abandoned c]
    else (closeChannel c).settle fun _ => pure ()
  else pure ()

/-- Open a channel that has just been reserved, and give it up if that fails. -/
def openOrAbandon (c : ChannelId) : Action σ ChannelId :=
  (openReserved c).settle fun
    | .ok () => pure c
    | .error e => do
      abandon c e
      fail e

/-- A channel ready for use. -/
def acquire : Action σ ChannelId := do
  requireOpen
  let s ← session
  match s.pool with
  | c :: idle =>
    change ({ · with pool := idle }) []
    return c
  | [] =>
    let c ← reserve
    openOrAbandon c

/-- Put a channel back for the next taker. The broker is not told. -/
def release (c : ChannelId) : Action σ Unit where
  run s link :=
    if c = .connection then ⟨.error (.invalidChannel c), [], s, link⟩
    else if ¬ s.isOpen c then ⟨.error (.channelNotFound c), [], s, link⟩
    else if c ∈ s.pool then ⟨.error (.alreadyReleased c), [], s, link⟩
    else ⟨.ok (), [], { s with pool := s.pool ++ [c] }, Link.releaseBuffers link⟩

end Session
end Multiplex
