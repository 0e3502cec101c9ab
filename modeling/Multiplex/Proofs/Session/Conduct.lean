import Multiplex.Proofs.Session.Move
import Multiplex.Proofs.Session.Waiting

/-! Everything that reads or sends on a channel is made of moves on one task, whatever the link
answers. -/

namespace Multiplex
namespace Session

open Multiplex.Action

/-- What an error says about the connection or the link is true. -/
def Honest (past : List Event) (s : Session) : SessionError → Prop
  | .link .. => ∃ e ∈ past, e.fails
  | .connectionClosedByPeer .. | .connectionRejected .. | .connectionClosed =>
    s.connection = .closed
  | .connectionClosing => s.connection ≠ .open
  | _ => True

theorem Honest.asRejection {past : List Event} {s : Session} {e : SessionError}
    (h : Honest past s e) (context : String) : Honest past s (e.asRejection context) := by
  cases e <;> exact h

theorem Honest.fatal {past : List Event} {s : Session} {e : SessionError} (h : Honest past s e)
    (fatal : e.isFatal) : s.connection ≠ .open ∨ ∃ x ∈ past, x.fails := by
  cases e <;> simp_all [Honest, SessionError.isFatal]

/-- What is common to all that is done on a task: it is made of moves and fails honestly. -/
structure Conduct (k : Task) (past : List Event) (s : Session) {σ α : Type} (o : Outcome σ α) :
    Prop where
  moves : Moves k past s o.trace o.session
  honest : ∀ e, o.result = .error e → Honest (past ++ o.trace) o.session e

variable {σ α β : Type} {k : Task} {past trace : List Event} {s t : Session} {link : σ}

namespace Conduct

theorem after {o : Outcome σ α} (first : Moves k past s trace t)
    (second : Conduct k (past ++ trace) t o) : Conduct k past s (o.after trace) where
  moves := first.trans second.moves
  honest := by simpa using second.honest

theorem done {a : α} : Conduct k past s (⟨.ok a, [], s, link⟩ : Outcome σ α) :=
  ⟨.none, by simp⟩

theorem failed {e : SessionError} (h : Honest past s e) :
    Conduct k past s (⟨.error e, [], s, link⟩ : Outcome σ α) where
  moves := .none
  honest := by
    rintro _ ⟨⟩
    simpa using h

theorem moved {events : List Event} {a : α} (move : Move k past s events t) :
    Conduct k past s (⟨.ok a, events, t, link⟩ : Outcome σ α) :=
  ⟨.one move, by simp⟩

theorem upset {events : List Event} {e : SessionError} (move : Move k past s events t)
    (h : Honest (past ++ events) t e) :
    Conduct k past s (⟨.error e, events, t, link⟩ : Outcome σ α) where
  moves := .one move
  honest := by
    rintro _ ⟨⟩
    exact h

theorem settle {x : Action σ α} {next : Except SessionError α → Action σ β}
    (first : Conduct k past s (x.run s link))
    (second : ∀ r, (x.run s link).result = r →
      (∀ e, r = .error e → Honest (past ++ (x.run s link).trace) (x.run s link).session e) →
      Conduct k (past ++ (x.run s link).trace) (x.run s link).session
        ((next r).run (x.run s link).session (x.run s link).link)) :
    Conduct k past s ((x.settle next).run s link) :=
  after first.moves (second _ rfl first.honest)

theorem bind {x : Action σ α} {next : α → Action σ β} (first : Conduct k past s (x.run s link))
    (second : ∀ a, (x.run s link).result = .ok a →
      Conduct k (past ++ (x.run s link).trace) (x.run s link).session
        ((next a).run (x.run s link).session (x.run s link).link)) :
    Conduct k past s ((x >>= next).run s link) := by
  change Conduct k past s ((x.andThen next).run s link)
  unfold andThen
  refine settle first fun r h honest => ?_
  cases r with
  | error e => exact failed (honest e rfl)
  | ok a => exact second a h

theorem gated {next : Unit → Action σ β}
    (inside : s.connection = .open → Conduct k past s ((next ()).run s link)) :
    Conduct k past s ((requireOpen >>= next).run s link) := by
  by_cases h : s.connection = .open
  · rw [run_requireOpen_bind h]
    exact inside h
  · obtain ⟨e, barred, he⟩ := run_requireOpen_bind_of_not h next link
    rw [barred]
    rcases he with rfl | ⟨rfl, closed⟩
    · exact .failed h
    · exact .failed closed

end Conduct

section Peer

variable [Link σ]

theorem conduct_send {m : Method} {context : String} (asked : k.asks past m)
    (there : k.channel ≠ .connection → s.isOpen k.channel) :
    Conduct k past s ((send k.channel m context).run s link) := by
  rcases run_send k.channel m context s link with ⟨link', h⟩ | ⟨e, link', h⟩ <;> rw [h]
  · exact .moved (.ask m _ asked there)
  · exact .upset (.ask m _ asked there) ⟨_, List.mem_append_right _ (.head _), rfl⟩

theorem conduct_finishChannel :
    Conduct k past s ((finishChannel k.channel).run s link) := by
  by_cases nonzero : k.channel = .connection
  · rw [finishChannel, run_session_bind, if_pos nonzero]
    exact .failed trivial
  cases opened : s.isOpen k.channel with
  | false =>
    rw [finishChannel, run_session_bind, if_neg nonzero, if_neg (by simp [opened])]
    exact .failed trivial
  | true =>
    rw [run_finishChannel nonzero opened]
    rcases run_send k.channel .channelCloseOk "channel.close-ok" (s.forget k.channel) link with
      ⟨link', h⟩ | ⟨e, link', h⟩ <;> rw [h]
    · exact .moved (.acknowledge _ nonzero opened)
    · exact .upset (.acknowledge _ nonzero opened)
        ⟨_, List.mem_append_right _ (.tail _ (.head _)), rfl⟩

theorem conduct_finishConnection :
    Conduct k past s (finishConnection.run s link) := by
  by_cases closed : s.connection = .closed
  · rw [finishConnection, run_session_bind, if_pos closed]
    exact .failed closed
  rw [run_finishConnection closed]
  rcases run_send .connection .connectionCloseOk "connection.close-ok" s.shut link with
    ⟨link', h⟩ | ⟨e, link', h⟩ <;> rw [h]
  · exact .moved (.surrender _)
  · exact .upset (.surrender _) ⟨_, List.mem_append_right _ (.tail _ (.head _)), rfl⟩

theorem conduct_closedChannel {m : Method} {context : String} :
    Conduct k past s ((closedChannel k.channel m context : Action σ α).run s link) := by
  unfold closedChannel
  refine conduct_finishChannel.bind fun _ _ => ?_
  cases CloseReason.decode m.args <;> exact .failed trivial

theorem conduct_closedConnection {m : Method} {context : String} :
    Conduct k past s ((closedConnection m context : Action σ α).run s link) := by
  rw [run_closedConnection]
  rcases run_send .connection .connectionCloseOk "connection.close-ok" s.shut link with
    ⟨link', h⟩ | ⟨e, link', h⟩
  · rw [run_bind_of_ok (by rw [h]), h, Outcome.after_after]
    refine .after (.one (.surrender none)) ?_
    cases CloseReason.decode m.args with
    | error _ => exact .failed trivial
    | ok _ => exact .failed rfl
  · rw [run_bind_of_error (by rw [h]), h]
    exact .upset (.surrender _) ⟨_, List.mem_append_right _ (.tail _ (.head _)), rfl⟩

theorem conduct_checkFrame {f : Frame} {context : String} :
    Conduct k past s ((checkFrame k.channel f context).run s link) := by
  unfold checkFrame
  split
  · split
    · exact conduct_closedChannel
    · split
      · exact conduct_closedConnection
      · exact .done
  · exact .done

end Peer

section Receive

variable [Link σ]

theorem conduct_deliver {f : Frame} (events : List Event)
    (taken : Move k past s (events ++ [.delivered k.channel f]) t) :
    Conduct k past s (((deliver k.channel f).run t link).after events) := by
  unfold deliver
  rw [run_record_bind, Outcome.after_after]
  exact .after (.one taken) (conduct_checkFrame.bind fun _ _ => .done)

theorem conduct_pullFor {wait : Timeout} (opened : s.isOpen k.channel)
    (empty : (s.queue k.channel).toList = []) :
    Conduct k past s (pullFor k.channel wait s link) := by
  induction s, link using pullFor_induction (σ := σ) k.channel wait generalizing past with
  | failed s link e link' pulled ran =>
    rw [ran]
    exact .upset (.idle wait _ (by simp)) ⟨_, List.mem_append_right _ (.head _), rfl⟩
  | nothing s link link' pulled ran =>
    rw [ran]
    exact .moved (.idle wait _ (by simp))
  | own s link f link' pulled own ran =>
    rw [ran]
    exact conduct_deliver _ (.hand wait f own opened empty)
  | closes s link f link' m pulled foreign routed ran =>
    rw [ran]
    exact .after (.one (.alarm wait f m foreign routed)) conduct_closedConnection
  | full s link f link' pulled foreign routed ran =>
    rw [ran]
    exact .upset (.refuse wait f foreign routed) trivial
  | late s link f link' t pulled foreign routed expired ran =>
    rw [ran]
    exact .moved (.park wait f t foreign routed)
  | passed s link f link' t pulled foreign routed patient ran ih =>
    rw [ran]
    refine .after (.one (.park wait f t foreign routed)) (ih ?_ ?_)
    · rwa [isOpen_of_route routed]
    · rw [queue_of_route routed foreign, empty]

theorem conduct_nextFrame {wait : Timeout} :
    Conduct k past s ((nextFrame k.channel wait).run s link) := by
  refine nextFrame_cases (fun _ => ?_) (fun f rest opened queued => ?_) fun opened empty => ?_
  · exact .failed trivial
  · have parked : (s.queue k.channel).toList = f :: (Queue.ofList rest).toList := by
      rw [queued, Queue.toList_ofList]
    exact conduct_deliver [] (.unpark f (.ofList rest) opened parked)
  · exact conduct_pullFor opened empty

theorem conduct_next {wait : Timeout} : Conduct k past s ((next k.channel wait).run s link) :=
  .gated fun _ => conduct_nextFrame

variable {context : String} {step : β → Frame → Step β α} {b : β}

theorem conduct_collect
    (gives_up : ∀ b f e, step b f = .failed e → ∀ past s, Honest past s e) :
    Conduct k past s (collect k.channel context step b s link) := by
  fun_induction collect k.channel context step b s link generalizing past with
  | case1 b s link e trace t link' h =>
    have read : Conduct k past s ((nextFrame k.channel none).run s link) := conduct_nextFrame
    rw [h] at read
    refine ⟨read.moves, ?_⟩
    rintro _ ⟨⟩
    exact read.honest e rfl
  | case2 b s link trace t link' h =>
    have read : Conduct k past s ((nextFrame k.channel none).run s link) := conduct_nextFrame
    rw [h] at read
    exact ⟨read.moves, by rintro _ ⟨⟩; trivial⟩
  | case3 b s link f trace t link' h ih =>
    have read : Conduct k past s ((nextFrame k.channel none).run s link) := conduct_nextFrame
    rw [h] at read
    refine .after read.moves ?_
    cases taken : step b f with
    | more b => exact ih b
    | done a => exact .done
    | failed e => exact .failed (gives_up b f e taken _ _)

end Receive

section Request

variable [Link σ]

theorem takeReply_honest {policy : UnexpectedReply} {channel : ChannelId} {context : String}
    {expected : List MethodId} {b : Unit} {f : Frame} {e : SessionError}
    (h : takeReply policy channel context expected b f = .failed e) : Honest past s e := by
  unfold takeReply at h
  grind [Honest]

theorem takeContent_honest {channel : ChannelId} {b : Assembly} {f : Frame} {e : SessionError}
    (h : takeContent channel b f = .failed e) : Honest past s e := by
  unfold takeContent at h
  grind [Honest]

theorem dropUntil_honest {answer : MethodId} {b : Unit} {f : Frame} {e : SessionError}
    (h : dropUntil answer b f = .failed e) : Honest past s e :=
  absurd h dropUntil_ne_failed

theorem conduct_awaitReply {context : String} {expected : List MethodId} :
    Conduct k past s ((awaitReply k.channel context expected).run s link) :=
  conduct_collect fun _ _ _ h _ _ => takeReply_honest h

theorem conduct_call {m : Method} {expected : List MethodId} (asked : k.asks past m) :
    Conduct k past s ((call k.channel m expected).run s link) := by
  unfold call
  refine .gated fun _ => ?_
  rw [run_session_bind]
  split
  · rename_i opened
    refine (conduct_send asked fun _ => opened).bind fun _ _ => ?_
    refine conduct_awaitReply.settle fun r _ honest => ?_
    cases r with
    | ok reply => exact .done
    | error e => exact .failed ((honest e rfl).asRejection _)
  · exact .failed trivial

theorem trace_call {channel : ChannelId} (usable : s.connection = .open)
    (opened : s.isOpen channel) (m : Method) (expected : List MethodId) (link : σ) :
    ∃ failure rest,
      ((call channel m expected).run s link).trace = .sent channel m failure :: rest := by
  rw [run_call usable opened]
  rcases run_send channel m m.id.name s link with ⟨link', sent⟩ | ⟨failure, link', sent⟩
  · rw [run_bind_of_ok (congrArg Outcome.result sent), sent]
    exact ⟨none, _, rfl⟩
  · rw [run_bind_of_error (congrArg Outcome.result sent), sent]
    exact ⟨some failure, [], rfl⟩

theorem isOpen_of_call {channel : ChannelId} {m reply : Method} {expected : List MethodId}
    (h : ((call channel m expected).run s link).result = .ok reply) :
    ((call channel m expected).run s link).session.isOpen channel := by
  by_cases usable : s.connection = .open
  · by_cases opened : s.isOpen channel
    · rw [run_call usable opened] at h ⊢
      rcases run_send channel m m.id.name s link with ⟨link', sent⟩ | ⟨e, link', sent⟩
      · rw [run_bind_of_ok (congrArg Outcome.result sent), sent, run_settle] at h ⊢
        have waiting : Gathering channel m.id.name
            (takeReply s.settings.unexpectedReply channel m.id.name expected) s
            ((awaitReply channel m.id.name expected).run s link') := gathering_collect opened
        dsimp only at h ⊢
        generalize (awaitReply channel m.id.name expected).run s link' = o at *
        cases waiting with
        | got f b a before t link incoming took opened => exact opened
        | _ => cases h
      · rw [run_bind_of_error (congrArg Outcome.result sent)] at h
        cases h
    · rw [call, run_requireOpen_bind usable, run_session_bind, if_neg opened] at h
      cases h
  · obtain ⟨e, barred, -⟩ :
        ∃ e, (call channel m expected).run s link = ⟨.error e, [], s, link⟩ ∧ _ :=
      run_requireOpen_bind_of_not usable _ link
    rw [barred] at h
    cases h

theorem conduct_awaitChannelCloseOk :
    Conduct k past s ((awaitChannelCloseOk k.channel).run s link) :=
  conduct_collect fun _ _ _ h _ _ => dropUntil_honest h

theorem delivered_of_awaitChannelCloseOk {channel : ChannelId} (opened : s.isOpen channel)
    (h : ((awaitChannelCloseOk channel).run s link).result = .ok ()) :
    ∃ f, .delivered channel f ∈ ((awaitChannelCloseOk channel).run s link).trace ∧
      f.isMethod .channelCloseOk ∧
      ((awaitChannelCloseOk channel).run s link).session.isOpen channel := by
  have waiting : Gathering channel "channel.close" (dropUntil .channelCloseOk) s
      ((awaitChannelCloseOk channel).run s link) := gathering_collect opened
  generalize (awaitChannelCloseOk channel).run s link = o at *
  cases waiting with
  | got f b a before t link incoming took opened =>
    exact ⟨f, by simp, isMethod_of_dropUntil took, opened⟩
  | _ => cases h

theorem conduct_closeChannel (asked : k.asks past (.channelClose .normal)) :
    Conduct k past s ((closeChannel k.channel).run s link) := by
  unfold closeChannel
  refine .gated fun _ => ?_
  rw [run_session_bind]
  split
  · exact .failed trivial
  rename_i nonzero
  split
  · rename_i opened
    rcases run_send k.channel (.channelClose .normal) "channel.close" s link with
      ⟨link', h⟩ | ⟨e, link', h⟩
    · rw [run_bind_of_ok (by rw [h]), h]
      refine .after (.one (.ask _ none asked fun _ => opened)) ?_
      refine conduct_awaitChannelCloseOk.settle fun r answer honest => ?_
      split
      · obtain ⟨f, delivered, closeOk, opened⟩ := delivered_of_awaitChannelCloseOk opened answer
        exact .moved (.conclude nonzero opened (by simp)
          ⟨f, List.mem_append_right _ delivered, closeOk⟩)
      · split
        · exact .done
        · exact .failed trivial
      · exact .failed (honest _ rfl)
    · rw [run_bind_of_error (by rw [h]), h]
      exact .upset (.ask _ _ asked fun _ => opened) ⟨_, List.mem_append_right _ (.head _), rfl⟩
  · exact .failed trivial

theorem conduct_exchangeCloses :
    Conduct (asking .connection (.connectionClose .normal)) past s
      (exchangeCloses.run s link) := by
  unfold exchangeCloses
  have sent : Conduct (asking .connection (.connectionClose .normal)) past s
      ((send .connection (.connectionClose .normal) "connection.close").run s link) :=
    conduct_send rfl (absurd rfl)
  refine sent.bind fun _ _ => ?_
  refine Conduct.bind (conduct_collect fun _ _ _ h _ _ => dropUntil_honest h) fun _ _ => ?_
  exact .moved .shut

theorem closed_of_exchangeCloses (h : (exchangeCloses.run s link).result = .ok ()) :
    (exchangeCloses.run s link).session.connection = .closed := by
  unfold exchangeCloses at h ⊢
  rcases run_send .connection (.connectionClose .normal) "connection.close" s link with
    ⟨link', sent⟩ | ⟨e, link', sent⟩
  · rw [run_bind_of_ok (by rw [sent]), sent] at h ⊢
    cases answer : ((awaitConnectionCloseOk : Action σ Unit).run s link').result with
    | ok _ =>
      rw [run_bind_of_ok answer]
      rfl
    | error e => simp [run_bind_of_error answer] at h
  · simp [run_bind_of_error (congrArg Outcome.result sent)] at h

theorem conduct_readContent : Conduct k past s ((readContent k.channel).run s link) :=
  .gated fun _ => conduct_collect fun _ _ _ h _ _ => takeContent_honest h

theorem conduct_readReturned {m : Method} :
    Conduct k past s ((readReturned k.channel m).run s link) := by
  unfold readReturned
  split
  · split
    · exact conduct_readContent.bind fun _ _ => .done
    · exact .failed trivial
  · exact .failed trivial

end Request

end Session
end Multiplex
