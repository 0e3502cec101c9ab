import Multiplex.Frame.Codec
import Multiplex.Spool

/-! Frames into a byte stream. A frame goes out whole, however the stream cuts it up, and is
flushed. The stream is given by what it will say to each write and each flush. -/

namespace Multiplex

/-- What a stream says to a write: how much it takes, or why it takes none. -/
inductive Acceptance
  | upTo (n : Nat)
  | failure (e : IoError)
  deriving DecidableEq

/-- What became of some octets that were to be written. -/
structure Delivery where
  failure : Option FrameError
  accepted : Octets
  calls : Nat
  script : List Acceptance

namespace Delivery

/-- Write until everything is accepted, making a write again when `again` says so. Behind the end
of its script the stream accepts everything. -/
def ofWrites (again : IoError → Bool) : List Acceptance → Octets → Delivery
  | script, [] => ⟨none, [], 0, script⟩
  | [], bs => ⟨none, bs, 1, []⟩
  | .upTo 0 :: script, _ => ⟨some .connectionClosed, [], 1, script⟩
  | .upTo n :: script, bs =>
    let d := ofWrites again script (bs.drop n)
    { d with accepted := bs.take n ++ d.accepted, calls := d.calls + 1 }
  | .failure e :: script, bs =>
    if again e then
      let d := ofWrites again script bs
      { d with calls := d.calls + 1 }
    else ⟨some (.io e), [], 1, script⟩

variable {again : IoError → Bool} {script : List Acceptance} {bs : Octets}

theorem accepted_begins (again : IoError → Bool) (script : List Acceptance) (bs : Octets) :
    (ofWrites again script bs).accepted <+: bs := by
  fun_induction ofWrites again script bs with
  | case1 | case3 | case6 => exact List.nil_prefix
  | case2 => exact List.prefix_rfl
  | case4 n script bs left some d ih =>
    have cut : bs.take n ++ d.accepted <+: bs.take n ++ bs.drop n :=
      (List.prefix_append_right_inj _).mpr ih
    rwa [List.take_append_drop] at cut
  | case5 e script bs left go d ih => exact ih

theorem accepted_of_done (done : (ofWrites again script bs).failure = none) :
    (ofWrites again script bs).accepted = bs := by
  fun_induction ofWrites again script bs with
  | case1 | case2 => rfl
  | case3 | case6 => cases done
  | case4 n script bs left some d ih =>
    have rest := ih done
    rw [rest, List.take_append_drop]
  | case5 e script bs left go d ih => exact ih done

end Delivery

structure Writer where
  limit : Nat
  /-- Whether writes time out, which the stream reports as a write that would block. -/
  timed : Bool
  writes : List Acceptance
  /-- What the stream says to each flush: a failure, or nothing. -/
  flushes : List (Option IoError)
  accepted : Spool
  writeCalls : Nat
  flushCalls : Nat

namespace Writer

def start (limit : Nat) (timed : Bool) (writes : List Acceptance)
    (flushes : List (Option IoError)) : Writer :=
  ⟨limit, timed, writes, flushes, .empty, 0, 0⟩

def again (timed : Bool) (e : IoError) : Bool :=
  e.kind = .interrupted || (e.kind = .wouldBlock && !timed)

def flushWith (again : IoError → Bool) :
    List (Option IoError) → Option FrameError × Nat × List (Option IoError)
  | [] => (none, 1, [])
  | none :: script => (none, 1, script)
  | some e :: script =>
    if again e then
      let (failure, calls, script) := flushWith again script
      (failure, calls + 1, script)
    else (some (.io e), 1, script)

def flush (w : Writer) : Except FrameError Unit × Writer :=
  let (failure, calls, flushes) := flushWith (again w.timed) w.flushes
  (match failure with
    | some e => .error e
    | none => .ok (),
   { w with flushes, flushCalls := w.flushCalls + calls })

/-- Write one frame and flush. A frame above the limit is refused before anything is written. -/
def writeFrame (w : Writer) (f : Frame) : Except FrameError Unit × Writer :=
  if w.limit < f.wireSize then (.error (.tooLarge f.wireSize w.limit), w)
  else
    match f.encode with
    | .error e => (.error e, w)
    | .ok bs =>
      let d := Delivery.ofWrites (again w.timed) w.writes bs
      let w := { w with
        writes := d.script
        accepted := w.accepted.push d.accepted
        writeCalls := w.writeCalls + d.calls }
      match d.failure with
      | some e => (.error e, w)
      | none => w.flush

section WriteFrame

variable {w : Writer} {f : Frame}

theorem writeFrame_of_large (large : w.limit < f.wireSize) :
    w.writeFrame f = (.error (.tooLarge f.wireSize w.limit), w) := if_pos large

theorem refused_of_not_fits (large : ¬ f.Fits w.limit) :
    ∃ e, w.writeFrame f = (.error e, w) := by
  by_cases within : f.wireSize ≤ w.limit
  · have unsayable : Frame.maxPayload < f.payload.size :=
      Nat.not_le.mp fun small => large ⟨small, within⟩
    refine ⟨.tooLarge f.payload.size Frame.maxPayload, ?_⟩
    simp [writeFrame, Nat.not_lt.mpr within, Frame.encode, unsayable]
  · exact ⟨_, writeFrame_of_large (Nat.not_le.mp within)⟩

theorem writeFrame_of_fits (fits : f.Fits w.limit) :
    w.writeFrame f =
      let d := Delivery.ofWrites (again w.timed) w.writes f.octets
      let written := { w with
        writes := d.script
        accepted := w.accepted.push d.accepted
        writeCalls := w.writeCalls + d.calls }
      match d.failure with
      | some e => (.error e, written)
      | none => written.flush := by
  unfold writeFrame
  rw [if_neg (Nat.not_lt.mpr fits.2)]
  simp only [Frame.encode_of_fits fits]

end WriteFrame

def sendMethod (w : Writer) (channel : ChannelId) (method : Method) :
    Except FrameError Unit × Writer :=
  w.writeFrame ⟨channel, .method method⟩

end Writer

inductive WriterCall
  | writeFrame (f : Frame)
  | sendMethod (channel : ChannelId) (method : Method)
  | flush
  deriving DecidableEq

/-- What a call has to write. -/
def WriterCall.octets : WriterCall → Octets
  | writeFrame f => f.octets
  | sendMethod channel method => Frame.octets ⟨channel, .method method⟩
  | flush => []

/-- A call that was made, what came of it, and what the stream took during it. -/
structure Writing where
  call : WriterCall
  result : Except FrameError Unit
  taken : Octets

namespace Writer

def call (w : Writer) : WriterCall → Except FrameError Unit × Writer
  | .writeFrame f => w.writeFrame f
  | .sendMethod channel method => w.sendMethod channel method
  | .flush => w.flush

def callAll (w : Writer) : List WriterCall → List Writing × Writer
  | [] => ([], w)
  | c :: calls =>
    let (result, next) := w.call c
    let (log, last) := next.callAll calls
    (⟨c, result, next.accepted.octets.drop w.accepted.size⟩ :: log, last)

end Writer
end Multiplex
