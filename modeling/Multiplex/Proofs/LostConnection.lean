import Multiplex.Link.Loopback
import Multiplex.Proofs.Session.Fate

/-! The connection that the peer closes. Whatever was under way then, the close is acknowledged once
and that is the last thing done; nothing is left but the connection's own channel. Most errors
say that the connection is lost, and two do not. -/

namespace Multiplex
namespace Session

open Multiplex.Action

variable {σ : Type} [Link σ] {s : Session} {link : σ} {op : Operation} {f : Frame} {close : Method}

/-- Nothing is left but the connection's own channel, with nothing parked, and it is closed. -/
structure Ruined (s : Session) : Prop where
  closed : s.connection = .closed
  only : ∀ c, s.isOpen c ↔ c = .connection
  parked : ∀ c, s.queue c = .empty
  pool : s.pool = []
  tags : s.consumers = ∅

theorem ruined_shut (s : Session) : s.shut.Ruined where
  closed := rfl
  only c := by simp
  parked c := by simp
  pool := rfl
  tags := rfl

/-- When the connection's close comes in, whatever the operation, the session is ruined at the end
of it. Up to then the operation sent only what it was meant to; then the close was acknowledged,
once, and nothing was sent or pulled after that. -/
theorem ruined_of_arrived (usable : s.connection = .open)
    (arrived : Arrived f ((perform op).run s link).trace) (method : f.method? = some close)
    (id : close.id = .connectionClose) :
    let o := (perform op).run s link
    Ruined o.session ∧
    ∃ (before : List Event) (failure : Option LinkError) (after : List Event),
      o.trace = before ++ .shut :: .sent .connection .connectionCloseOk failure :: after ∧
      (∀ d m outcome, .sent d m outcome ∈ before → op.requests d m) ∧
      ∀ e ∈ after, e = .shut := by
  intro o
  obtain ⟨e, mem, met⟩ := exists_close?_of_arrived arrived method id
  have fate : Fate op s o := fate_perform usable op
  cases fate with
  | spared unmet => exact absurd met (unmet e mem close)
  | struck f close failure before after t arrived method id asked trace session silent =>
    rw [session]
    refine ⟨ruined_shut t, before, failure, after, trace, asked, ?_⟩
    rcases silent with rfl | ⟨-, rfl⟩ <;> simp

/-- A channel whose opening fails because a reply came that nobody expected. While it is closed
again the broker closes the connection, and does not say why. -/
def crossed : Loopback :=
  { Loopback.start 0 with
    incoming := [.frame ⟨1, .method (.bare .basicConsumeOk)⟩,
      .frame ⟨0, .method (.bare .connectionClose)⟩, .frame ⟨1, .method (.bare .channelCloseOk)⟩] }

theorem ruined_crossed :
    let s := Session.start { Settings.standard with unexpectedReply := .fail }
    let o := (perform .acquire).run s crossed
    s.connection = .open ∧ Arrived ⟨0, .method (.bare .connectionClose)⟩ o.trace ∧
      Ruined o.session := by
  intro s o
  have arrived : Arrived ⟨0, .method (.bare .connectionClose)⟩ o.trace :=
    ⟨1, .inr ⟨rfl, none, by decide +kernel⟩⟩
  exact ⟨rfl, arrived, (ruined_of_arrived rfl arrived rfl rfl).1⟩

/-- An operation that loses the connection fails, with an error that says so, but for two cases:
the reason that the peer gave is malformed, or a channel whose opening had failed was being closed
again, and the error says why it had failed. -/
theorem isFatal_eq_false_iff (usable : s.connection = .open) (other : op ≠ .closeConnection)
    (unfinished : op ≠ .finishConnection)
    (lost : ((perform op).run s link).session.connection = .closed) :
    let o := (perform op).run s link
    ∃ (before : List Event) (f : Frame) (close : Method) (failure : Option LinkError)
      (e : SessionError),
      o.trace = before ++ [.shut, .sent .connection .connectionCloseOk failure] ∧
      (Arrived f before ∨ ∃ c context, op = .check c f context) ∧ f.method? = some close ∧
      close.id = .connectionClose ∧ o.result = .error e ∧
      (e.isFatal = false ↔ op.Undoing before ∨
        failure = none ∧ ∃ cause, CloseReason.decode close.args = .error cause) := by
  intro o
  have fate : Fate op s o := fate_perform usable op
  cases fate with
  | spared unmet stays =>
    have open_still : o.session.connection = .open := (stays other unfinished).trans usable
    rw [lost] at open_still
    cases open_still
  | struck f close failure before after t arrived method id asked trace session silent rated =>
    obtain rfl : after = [] := silent.resolve_right fun closing => other closing.1
    obtain ⟨e, failed, fatal⟩ := rated other
    exact ⟨before, f, close, failure, e, trace, arrived, method, id, failed, fatal⟩

theorem isFatal_told :
    let close := CloseReason.mk 320 "bye" 0 0
    let link := (Loopback.start 0).push [.frame ⟨0, .method (.connectionClose close)⟩]
    let o := (perform (.next 0 none)).run (.start .standard) link
    o.session.connection = .closed ∧ ∃ e, o.result = .error e := by
  intro close link o
  have usable : (Session.start .standard).connection = .open := rfl
  have lost : o.session.connection = .closed := by decide +kernel
  obtain ⟨-, -, -, -, e, -, -, -, -, failed, -⟩ :=
    isFatal_eq_false_iff usable (by decide : Operation.next 0 none ≠ .closeConnection) (by decide)
      lost
  exact ⟨lost, e, failed⟩

theorem isFatal_eq_false_untold :
    (let link := (Loopback.start 0).push [.frame ⟨0, .method (.bare .connectionClose)⟩]
    let o := (perform (.next 0 none)).run (.start .standard) link
    let e := .malformedMethod .connectionClose (.malformed (.truncatedAt .replyCode))
    o.session.connection = .closed ∧ o.result = .error e ∧ e.isFatal = false) ∧
    let s := Session.start { Settings.standard with unexpectedReply := .fail }
    let o := (perform .acquire).run s crossed
    let e := .unexpectedMethod 1 .basicConsumeOk "channel.open"
    o.session.connection = .closed ∧ o.result = .error e ∧ e.isFatal = false := by
  decide +kernel

end Session
end Multiplex
