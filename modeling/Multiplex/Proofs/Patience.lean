import Multiplex.Proofs.Encoding
import Multiplex.Proofs.Reception
import Multiplex.Session.Receive

/-! A limited wait for a frame of which only a part has come. Nothing that came is lost, but the
wait runs out as it should only as long as none of that part is at the socket: if there is anything
to read, the whole frame is read for, and what the socket fails with then is an error. -/

namespace Multiplex
namespace Session

open Multiplex.Action

variable {s : Session} {w : Wire} {c : ChannelId} {later : Octets} {f : Frame}

theorem run_next_of_unsettled (usable : s.connection = .open) (opened : s.isOpen c)
    (empty : (s.queue c).toList = [])
    (unfound : Reader.settled w.limit (w.buffer ++ w.incoming) = none) (wait : Timeout) :
    let o := (next c wait).run s w
    o.result = (if wait.isSome ∧ w.incoming = [] ∧ ¬ w.ended then .ok none
      else .error (.link "pull frame" (.frame w.shortage))) ∧
    o.session = s ∧ o.link = { w with buffer := w.buffer ++ w.incoming, incoming := [] } := by
  have pulled : Link.pull w wait = _ := Wire.pull_of_unsettled unfound wait
  intro o
  have pulls : o = pullFor c wait s w := by
    simp only [o, next]
    rw [run_requireOpen_bind usable, run_nextFrame_of_empty opened empty]
  rw [pulls]
  by_cases quiet : wait.isSome ∧ w.incoming = [] ∧ ¬ w.ended
  · rw [if_pos quiet] at pulled ⊢
    rw [pullFor_of_nothing pulled]
    refine ⟨rfl, rfl, ?_⟩
    rw [quiet.2.1, List.append_nil, ← quiet.2.1]
  · rw [if_neg quiet] at pulled ⊢
    rw [pullFor_of_failed pulled]
    exact ⟨rfl, rfl, rfl⟩

/-- However the part of a frame that has come is divided between the buffer and the socket, a
limited wait for the next frame changes nothing in the session and loses no octet, so that the frame
is found when the rest of it comes; but it brings no frame, and no error either, just if the socket
is quiet. Otherwise it fails with what a read of the empty socket fails with. -/
theorem next_of_part (usable : s.connection = .open) (opened : s.isOpen c)
    (empty : (s.queue c).toList = []) (lasting : w.ended = false)
    (whole : Frame.decode w.limit (w.buffer ++ w.incoming ++ later) = (.frame f, []))
    (lacking : later ≠ []) (time : Limit) :
    let o := (next c (some time)).run s w
    o.result = (if w.incoming = [] then .ok none
      else .error (.link "pull frame" (.frame (.io Wire.wouldBlock)))) ∧
    o.session = s ∧ o.link.buffer ++ o.link.incoming = w.buffer ++ w.incoming ∧
    ∀ wait, ((o.link.feed later).pull wait).1 = .frame f := by
  intro o
  have unfound : Reader.settled w.limit (w.buffer ++ w.incoming) = none := by
    refine Reader.settled_eq_none_iff.mpr
      (Frame.incomplete_of_begins whole (List.prefix_append _ _) fun all => lacking ?_)
    exact List.self_eq_append_right.mp all
  obtain ⟨result, session, link⟩ := run_next_of_unsettled usable opened empty unfound (some time)
  refine ⟨?_, session, ?_, fun wait => ?_⟩
  · simpa [Wire.shortage, lasting] using result
  · rw [link]
    exact List.append_nil _
  · have found : Reader.settled (o.link.feed later).limit
        ((o.link.feed later).buffer ++ (o.link.feed later).incoming) = some (.ok f, []) := by
      simp only [o, link, Wire.feed, List.nil_append]
      exact Reader.settled_of_frame whole
    obtain ⟨kept, left, -, pulled⟩ := Wire.pull_of_settled found wait
    rw [pulled]
    rfl

theorem next_of_part_buffered :
    let w : Wire := ⟨0, 8, [8, 0], [], false, false, .empty⟩
    let later : Octets := [0, 0, 0, 0, 0, 0xCE]
    let s := start .standard
    let o := (next .connection (some 0)).run s w
    s.connection = .open ∧ s.isOpen .connection ∧ (s.queue .connection).toList = [] ∧
    Frame.decode w.limit (w.buffer ++ w.incoming ++ later) = (.frame ⟨0, .heartbeat⟩, []) ∧
    o.result = .ok none ∧ o.link.buffer ++ o.link.incoming = [8, 0] ∧
    ((o.link.feed later).pull none).1 = .frame ⟨0, .heartbeat⟩ := by
  intro w later s o
  have opened : s.isOpen .connection := by decide
  have empty : (s.queue .connection).toList = [] := by decide
  have whole : Frame.decode w.limit (w.buffer ++ w.incoming ++ later) =
      (.frame ⟨0, .heartbeat⟩, []) := by decide
  obtain ⟨result, -, kept, brings⟩ :=
    next_of_part (s := s) (w := w) rfl opened empty rfl whole (List.cons_ne_nil _ _) 0
  exact ⟨rfl, opened, empty, whole, result, kept, brings none⟩

/-- The same two octets, both of them still at the socket: the wait fails. -/
theorem next_of_part_arrived :
    let w : Wire := ⟨0, 8, [], [8, 0], false, false, .empty⟩
    let whole : Octets := [8, 0, 0, 0, 0, 0, 0, 0xCE]
    let s := start .standard
    s.connection = .open ∧ s.isOpen .connection ∧ (s.queue .connection).toList = [] ∧
    w.ended = false ∧ Frame.decode w.limit whole = (.frame ⟨0, .heartbeat⟩, []) ∧
    w.buffer ++ w.incoming <+: whole ∧ w.buffer ++ w.incoming ≠ whole ∧
    ((next .connection (some 0)).run s w).result =
      .error (.link "pull frame" (.frame (.io Wire.wouldBlock))) := by
  intro w whole s
  have opened : s.isOpen .connection := by decide
  have empty : (s.queue .connection).toList = [] := by decide
  have unfound : Reader.settled w.limit (w.buffer ++ w.incoming) = none := by decide
  obtain ⟨result, -⟩ := run_next_of_unsettled (s := s) (w := w) rfl opened empty unfound (some 0)
  exact ⟨rfl, opened, empty, rfl, by decide, by decide, by decide, result⟩

end Session
end Multiplex
