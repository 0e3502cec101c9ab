import Multiplex.Session.Peer

/-! Reading one channel of a shared link. There is no reader of its own: whoever wants a frame of
one channel pulls the link and parks what belongs to the others, so each channel keeps its order.
Every frame that reaches the reader leaves less ahead of it, in the queue or on the link. -/

namespace Multiplex
namespace Session

variable {σ : Type} [Link σ]
open Multiplex.Action

/-- Hand a frame to the reader of a channel, who sees a close as an error. -/
def deliver (channel : ChannelId) (f : Frame) : Action σ (Option Frame) := do
  record [.delivered channel f]
  let f ← checkFrame channel f "next_frame"
  return some f

/-- Pull until a frame for the channel arrives. -/
def pullFor (channel : ChannelId) (wait : Timeout) (s : Session) (link : σ) :
    Outcome σ (Option Frame) :=
  match _h : Link.pull link wait with
  | (.failed e, link) =>
    ⟨.error (.link "pull frame" e), [.pulled channel wait (.failed e)], s, link⟩
  | (.nothing, link) => ⟨.ok none, [.pulled channel wait .nothing], s, link⟩
  | (.frame f, link) =>
    .after [.pulled channel wait (.frame f)] <|
      if f.channel = channel then (deliver channel f).run s link
      else
        match s.route f with
        | .close m => (closedConnection m "next_frame").run s link
        | .full => ⟨.error (.bufferFull f.channel), [.refused f], s, link⟩
        | .on s => if wait.expired then ⟨.ok none, [], s, link⟩ else pullFor channel wait s link
  termination_by Link.backlog link
  decreasing_by exact Link.backlog_lt_of_pull _h

section PullFor

variable {channel : ChannelId} {wait : Timeout} {s : Session} {link link' : σ}

theorem pullFor_of_failed {e : LinkError} (h : Link.pull link wait = (.failed e, link')) :
    pullFor channel wait s link =
      ⟨.error (.link "pull frame" e), [.pulled channel wait (.failed e)], s, link'⟩ := by
  rw [pullFor]
  split <;> simp_all

theorem pullFor_of_nothing (h : Link.pull link wait = (.nothing, link')) :
    pullFor channel wait s link = ⟨.ok none, [.pulled channel wait .nothing], s, link'⟩ := by
  rw [pullFor]
  split <;> simp_all

theorem pullFor_of_own {f : Frame} (h : Link.pull link wait = (.frame f, link'))
    (own : f.channel = channel) : pullFor channel wait s link =
      ((deliver channel f).run s link').after [.pulled channel wait (.frame f)] := by
  rw [pullFor]
  split <;> simp_all

theorem pullFor_of_foreign {f : Frame} (h : Link.pull link wait = (.frame f, link'))
    (foreign : f.channel ≠ channel) : pullFor channel wait s link =
      .after [.pulled channel wait (.frame f)] (match s.route f with
        | .close m => (closedConnection m "next_frame").run s link'
        | .full => ⟨.error (.bufferFull f.channel), [.refused f], s, link'⟩
        | .on s => if wait.expired then ⟨.ok none, [], s, link'⟩
          else pullFor channel wait s link') := by
  rw [pullFor]
  split <;> simp_all

/-- Whether the time runs out over a frame of another channel makes no difference where the link
brings nothing after it. -/
theorem pullFor_of_last {f : Frame} {t : Session} (h : Link.pull link wait = (.frame f, link'))
    (foreign : f.channel ≠ channel) (routed : s.route f = .on t)
    (last : Link.pull link' wait = (.nothing, link')) :
    let o := pullFor channel wait s link
    o.result = .ok none ∧ o.session = t ∧ o.link = link' := by
  rw [pullFor_of_foreign h foreign, routed]
  dsimp only
  rw [pullFor_of_nothing last]
  cases wait.expired <;> exact ⟨rfl, rfl, rfl⟩

theorem pullFor_induction (channel : ChannelId) (wait : Timeout) {motive : Session → σ → Prop}
    (failed : ∀ s link e link', Link.pull link wait = (.failed e, link') →
      pullFor channel wait s link =
        ⟨.error (.link "pull frame" e), [.pulled channel wait (.failed e)], s, link'⟩ →
      motive s link)
    (nothing : ∀ s link link', Link.pull link wait = (.nothing, link') →
      pullFor channel wait s link = ⟨.ok none, [.pulled channel wait .nothing], s, link'⟩ →
      motive s link)
    (own : ∀ s link f link', Link.pull link wait = (.frame f, link') → f.channel = channel →
      pullFor channel wait s link =
        ((deliver channel f).run s link').after [.pulled channel wait (.frame f)] →
      motive s link)
    (closes : ∀ s link f link' m, Link.pull link wait = (.frame f, link') → f.channel ≠ channel →
      s.route f = .close m →
      pullFor channel wait s link =
        ((closedConnection m "next_frame").run s link').after [.pulled channel wait (.frame f)] →
      motive s link)
    (full : ∀ s link f link', Link.pull link wait = (.frame f, link') → f.channel ≠ channel →
      s.route f = .full →
      pullFor channel wait s link =
        ⟨.error (.bufferFull f.channel), [.pulled channel wait (.frame f), .refused f], s, link'⟩ →
      motive s link)
    (late : ∀ s link f link' t, Link.pull link wait = (.frame f, link') → f.channel ≠ channel →
      s.route f = .on t → wait.expired →
      pullFor channel wait s link = ⟨.ok none, [.pulled channel wait (.frame f)], t, link'⟩ →
      motive s link)
    (passed : ∀ s link f link' t, Link.pull link wait = (.frame f, link') → f.channel ≠ channel →
      s.route f = .on t → ¬ wait.expired →
      pullFor channel wait s link =
        (pullFor channel wait t link').after [.pulled channel wait (.frame f)] →
      motive t link' → motive s link)
    (s : Session) (link : σ) : motive s link := by
  fun_induction pullFor channel wait s link with
  | case1 s link e link' pulled => exact failed s link e link' pulled (pullFor_of_failed pulled)
  | case2 s link link' pulled => exact nothing s link link' pulled (pullFor_of_nothing pulled)
  | case3 s link f link' pulled ih =>
    by_cases here : f.channel = channel
    · exact own s link f link' pulled here (pullFor_of_own pulled here)
    have passes := pullFor_of_foreign (s := s) pulled here
    cases routed : s.route f with
    | close m => exact closes s link f link' m pulled here routed (by rw [passes, routed])
    | full =>
      refine full s link f link' pulled here routed ?_
      rw [passes, routed]
      rfl
    | on t =>
      by_cases expired : wait.expired
      · refine late s link f link' t pulled here routed expired ?_
        rw [passes, routed]
        simp [expired, Outcome.after]
      · refine passed s link f link' t pulled here routed expired ?_ (ih t)
        rw [passes, routed]
        simp [expired]

end PullFor

/-- The next frame of a channel, parked or pulled, whatever the state of the connection. -/
def nextFrame (channel : ChannelId) (wait : Timeout) : Action σ (Option Frame) where
  run s link :=
    match s.queues[channel]? with
    | none => ⟨.error (.channelNotFound channel), [], s, link⟩
    | some frames =>
      match frames.pop? with
      | some (f, rest) => (deliver channel f).run (s.setQueue channel rest) link
      | none => pullFor channel wait s link

section NextFrame

variable {channel : ChannelId} {wait : Timeout} {s : Session}

theorem run_nextFrame_of_closed (closed : s.isOpen channel = false) (link : σ) :
    (nextFrame channel wait).run s link = ⟨.error (.channelNotFound channel), [], s, link⟩ := by
  simp [nextFrame, getElem?_queues_of_closed closed]

theorem run_nextFrame_of_queued {f : Frame} {rest : List Frame} (opened : s.isOpen channel)
    (queued : (s.queue channel).toList = f :: rest) (link : σ) :
    (nextFrame channel wait).run s link =
      (deliver channel f).run (s.setQueue channel (.ofList rest)) link := by
  have popped : (s.queue channel).pop? = some (f, .ofList rest) :=
    Queue.pop?_eq_some_iff.mpr (by rw [queued, Queue.toList_ofList])
  simp [nextFrame, getElem?_queues_of_isOpen opened, popped]

theorem run_nextFrame_of_empty (opened : s.isOpen channel)
    (empty : (s.queue channel).toList = []) (link : σ) :
    (nextFrame channel wait).run s link = pullFor channel wait s link := by
  simp [nextFrame, getElem?_queues_of_isOpen opened, Queue.pop?_eq_none_iff.mpr empty]

/-- To read a channel once is to find it closed, to take what was parked first, or to pull. -/
@[elab_as_elim]
theorem nextFrame_cases {link : σ} {motive : Outcome σ (Option Frame) → Prop}
    (closed : s.isOpen channel = false → motive ⟨.error (.channelNotFound channel), [], s, link⟩)
    (queued : ∀ f rest, s.isOpen channel → (s.queue channel).toList = f :: rest →
      motive ((deliver channel f).run (s.setQueue channel (.ofList rest)) link))
    (empty : s.isOpen channel → (s.queue channel).toList = [] →
      motive (pullFor channel wait s link)) :
    motive ((nextFrame channel wait).run s link) := by
  cases opened : s.isOpen channel with
  | false =>
    rw [run_nextFrame_of_closed opened]
    exact closed opened
  | true =>
    cases parked : (s.queue channel).toList with
    | nil =>
      rw [run_nextFrame_of_empty opened parked]
      exact empty opened parked
    | cons f rest =>
      rw [run_nextFrame_of_queued opened parked]
      exact queued f rest opened parked

end NextFrame

/-- The next frame of a channel, or none when the time runs out first. -/
def next (channel : ChannelId) (wait : Timeout) : Action σ (Option Frame) := do
  requireOpen
  nextFrame channel wait

section Progress

def ahead (channel : ChannelId) (s : Session) (link : σ) : Nat :=
  (s.queue channel).length + Link.backlog link

variable {channel : ChannelId} {f : Frame} {wait : Timeout} {s : Session} {link : σ}

theorem closedChannel_ne_ok {m : Method} {context : String} {a : α} :
    ((closedChannel channel m context).run s link).result ≠ .ok a := by
  unfold closedChannel
  cases h : ((finishChannel channel).run s link).result with
  | error e => simp [run_bind_of_error h]
  | ok _ =>
    rw [run_bind_of_ok h]
    cases CloseReason.decode m.args <;> simp

theorem closedConnection_ne_ok {m : Method} {context : String} {a : α} :
    ((closedConnection m context).run s link).result ≠ .ok a := by
  unfold closedConnection
  rw [run_change_bind, Outcome.result_after]
  cases h : (finishConnection.run { s with connection := .closingRemote } link).result with
  | error e => simp [run_bind_of_error h]
  | ok _ =>
    rw [run_bind_of_ok h]
    cases CloseReason.decode m.args <;> simp

theorem checkFrame_of_ok {context : String} {g : Frame}
    (h : ((checkFrame channel f context).run s link).result = .ok g) :
    (checkFrame channel f context).run s link = ⟨.ok f, [], s, link⟩ := by
  revert h
  fun_cases checkFrame (σ := σ) channel f context with
  | case1 => exact fun h => absurd h closedChannel_ne_ok
  | case2 => exact fun h => absurd h closedConnection_ne_ok
  | case3 => exact fun _ => rfl
  | case4 => exact fun _ => rfl

theorem deliver_of_ok {g : Option Frame} (h : ((deliver channel f).run s link).result = .ok g) :
    (deliver channel f).run s link = ⟨.ok (some f), [.delivered channel f], s, link⟩ := by
  unfold deliver at h ⊢
  rw [run_record_bind] at h ⊢
  cases hc : ((checkFrame channel f "next_frame").run s link).result with
  | error e => simp [run_bind_of_error hc] at h
  | ok _ =>
    have hc := checkFrame_of_ok hc
    rw [run_bind_of_ok (congrArg Outcome.result hc), hc]
    rfl

theorem backlog_lt_of_pullFor
    (h : (pullFor channel wait s link).result = .ok (some f)) :
    (pullFor channel wait s link).session.queue channel = s.queue channel ∧
      Link.backlog (pullFor channel wait s link).link < Link.backlog link := by
  induction s, link using pullFor_induction (σ := σ) channel wait with
  | failed s link e link' pulled ran => simp [ran] at h
  | nothing s link link' pulled ran => simp [ran] at h
  | own s link g link' pulled own ran =>
    rw [ran, Outcome.result_after] at h
    rw [ran, deliver_of_ok h]
    exact ⟨rfl, Link.backlog_lt_of_pull pulled⟩
  | closes s link g link' m pulled foreign routed ran =>
    rw [ran, Outcome.result_after] at h
    exact absurd h closedConnection_ne_ok
  | full s link g link' pulled foreign routed ran => simp [ran] at h
  | late s link g link' t pulled foreign routed expired ran => simp [ran] at h
  | passed s link g link' t pulled foreign routed patient ran ih =>
    rw [ran, Outcome.result_after] at h
    obtain ⟨same, less⟩ := ih h
    rw [ran]
    exact ⟨same.trans (queue_of_route routed foreign),
      Nat.lt_trans less (Link.backlog_lt_of_pull pulled)⟩

/-- A frame that reaches the reader was ahead of it before. -/
theorem ahead_lt_of_nextFrame
    (h : ((nextFrame channel wait).run s link).result = .ok (some f)) :
    ahead channel ((nextFrame channel wait).run s link).session
      ((nextFrame channel wait).run s link).link < ahead channel s link := by
  revert h
  refine nextFrame_cases ?_ ?_ ?_
  · intro closed h
    cases h
  · intro g rest opened queued h
    have shorter := congrArg List.length queued
    rw [Queue.length_toList, List.length_cons] at shorter
    rw [deliver_of_ok h]
    simp [ahead, shorter, ← Queue.length_toList (.ofList rest)]
  · intro opened empty h
    have := backlog_lt_of_pullFor h
    simp only [ahead, this.1]
    omega

end Progress

/-- What a reader makes of a frame: read on, stop, or give up. -/
inductive Step (β α : Type)
  | more (b : β)
  | done (a : α)
  | failed (e : SessionError)

/-- Read a channel without a limit until enough has come, carrying `b` from frame to frame.
`context` names the wait if a pull brings nothing. -/
def collect (channel : ChannelId) (context : String) (step : β → Frame → Step β α) (b : β)
    (s : Session) (link : σ) : Outcome σ α :=
  match _h : (nextFrame channel none).run s link with
  | ⟨.error e, trace, s, link⟩ => ⟨.error e, trace, s, link⟩
  | ⟨.ok none, trace, s, link⟩ => ⟨.error (.emptyReply channel context), trace, s, link⟩
  | ⟨.ok (some f), trace, s, link⟩ =>
    .after trace <|
      match step b f with
      | .more b => collect channel context step b s link
      | .done a => ⟨.ok a, [], s, link⟩
      | .failed e => ⟨.error e, [], s, link⟩
  termination_by ahead channel s link
  decreasing_by
    have := ahead_lt_of_nextFrame (congrArg Outcome.result _h)
    rwa [_h] at this

theorem collect_eq (channel : ChannelId) (context : String) (step : β → Frame → Step β α) (b : β)
    (s : Session) (link : σ) :
    collect channel context step b s link =
      let o := (nextFrame channel none).run s link
      match o.result with
      | .error e => ⟨.error e, o.trace, o.session, o.link⟩
      | .ok none => ⟨.error (.emptyReply channel context), o.trace, o.session, o.link⟩
      | .ok (some f) =>
        .after o.trace <|
          match step b f with
          | .more b => collect channel context step b o.session o.link
          | .done a => ⟨.ok a, [], o.session, o.link⟩
          | .failed e => ⟨.error e, [], o.session, o.link⟩ := by
  rw [collect]
  split <;> simp_all

end Session
end Multiplex
