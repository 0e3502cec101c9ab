import Multiplex.Link.Loopback
import Multiplex.Proofs.Session.Reading
import Multiplex.Session.Run

/-! Channels that the peer closes. Whoever waits for a frame of a channel and gets its close instead
is told so and gets nothing else; the channel is erased and its close acknowledged once. -/

namespace Multiplex

namespace Session

open Multiplex.Action

/-- Nothing of a channel is left. -/
structure Erased (c : ChannelId) (s : Session) : Prop where
  closed : s.isOpen c = false
  parked : s.queue c = .empty
  pooled : c ∉ s.pool
  tags : ∀ tag : String, s.consumers[tag]? ≠ some c

theorem erased_forget (s : Session) (c : ChannelId) : (s.forget c).Erased c where
  closed := by simp
  parked := by simp
  pooled := by simp [forget]
  tags tag := by simp [forget, Consumers.getElem?_dropChannel, Option.filter_eq_some_iff]

variable {σ : Type} [Link σ] {s : Session} {link : σ} {op : Operation} {c : ChannelId} {f : Frame}
  {close : Method}

/-- A reader of a channel that meets its close hands on nothing: the channel is erased, its close
is acknowledged once, with nothing after it, and the error says why the peer closed. -/
theorem erased_of_consumed (usable : s.connection = .open) (nonzero : c ≠ .connection)
    (listens : op.listensOn? = some c) (consumed : Consumed c f ((perform op).run s link).trace)
    (method : f.method? = some close) (id : close.id = .channelClose) :
    let o := (perform op).run s link
    Erased c o.session ∧ o.session.connection = .open ∧
    ∃ (before : List Event) (failure : Option LinkError),
      o.trace = before ++ [.forgotten c, .sent c .channelCloseOk failure] ∧
      (∀ d m outcome, .sent d m outcome ∈ before → op.requests d m) ∧
      o.result = .error (match failure with
        | some cause => .link "channel.close-ok" cause
        | none =>
          match CloseReason.decode close.args with
          | .error cause => .malformedMethod .channelClose cause
          | .ok reason =>
            match op with
            | .call _ m _ => .serverRejected c reason m.id.name
            | _ => .channelClosedByPeer c reason "next_frame") := by
  intro o
  have reading : Reading c op.requests (fun e r => r = .error (op.retell e)) s o :=
    reading_perform listens
  obtain ⟨e, mem, met⟩ := exists_close?_of_consumed consumed method id nonzero
  obtain ⟨before, failure, t, led, stays, trace, gone, passed⟩ := reading.of_met mem met
  rw [gone]
  refine ⟨erased_forget t c, stays.trans usable, before, failure, trace, led.asked, ?_⟩
  rw [passed]
  cases failure with
  | some cause => cases op <;> rfl
  | none =>
    cases decoded : CloseReason.decode close.args with
    | error cause => cases op <;> simp [Scope.error, decoded, Operation.retell, id,
        SessionError.asRejection]
    | ok reason => cases op <;> simp [Scope.error, Scope.closedByPeer, decoded, Operation.retell,
        SessionError.asRejection]

/-- A broker that answers a request by closing the channel, which is idle and has a tag. -/
def refusing : List (Operation × Loopback) :=
  [(.acquire, { Loopback.start 0 with replies := Loopback.agreeable }),
   (.register "tag" 1, Loopback.start 0), (.release 1, Loopback.start 0)]

def refusal : Method := ⟨.channelClose, (CloseReason.mk 404 "gone" 60 20).encode⟩

theorem erased_refusing :
    let s := ((Run.start .standard).performAll refusing).session
    let op := Operation.call 1 ⟨.basicConsume, []⟩ [.basicConsumeOk, .channelClose]
    let link := { Loopback.start 0 with
      incoming := [.frame ⟨1, .body [7]⟩, .frame ⟨1, .method refusal⟩, .frame ⟨1, .body [8]⟩] }
    s.connection = .open ∧ op.listensOn? = some 1 ∧
    Consumed 1 ⟨1, .method refusal⟩ ((perform op).run s link).trace ∧
    Erased 1 ((perform op).run s link).session := by
  intro s op link
  have consumed : Consumed 1 ⟨1, .method refusal⟩ ((perform op).run s link).trace :=
    .inr ⟨rfl, none, by decide +kernel⟩
  exact ⟨by decide +kernel, rfl, consumed,
    (erased_of_consumed (by decide +kernel) (by decide) rfl consumed rfl rfl).1⟩

end Session
end Multiplex
