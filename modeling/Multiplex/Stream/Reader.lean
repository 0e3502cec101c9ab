import Multiplex.Frame.Codec

/-! Frames out of a byte stream. Octets are gathered in a buffer until it begins with a frame; a
frame that is already there costs no read. The stream is given by what each read of it will
bring. -/

namespace Multiplex

/-- What a read brings. No octets at all mean the end of the stream. -/
inductive Arrival
  | octets (bs : Octets)
  | failure (e : IoError)
  deriving DecidableEq

namespace Arrival

/-- The most that one read asks for. -/
def chunk : Nat := 8192

def reads (bs : Octets) : List Arrival :=
  if bs = [] then [] else .octets (bs.take chunk) :: reads (bs.drop chunk)
  termination_by bs.length
  decreasing_by
    have := List.length_pos_iff.mpr ‹_›
    simp only [List.length_drop, chunk]
    omega

/-- How many octets come when so many are wanted and whole reads are made. -/
def inWholeReads (wanted : Nat) : Nat := ((wanted - 1) / chunk + 1) * chunk

theorem inWholeReads_pos (wanted : Nat) : 0 < inWholeReads wanted :=
  Nat.mul_pos (Nat.succ_pos _) (by decide)

/-- The octets that some reads bring. -/
def joined : List Arrival → Octets
  | [] => []
  | .octets bs :: arrivals => bs ++ joined arrivals
  | .failure _ :: arrivals => joined arrivals

@[simp] theorem joined_append (a b : List Arrival) : joined (a ++ b) = joined a ++ joined b := by
  induction a with
  | nil => rfl
  | cons arrival a ih => cases arrival <;> simp [joined, ih]

@[simp] theorem joined_reads (bs : Octets) : joined (reads bs) = bs := by
  fun_induction reads bs with
  | case1 => rfl
  | case2 bs h ih => simp [joined, ih]

end Arrival

structure Reader where
  limit : Nat
  buffer : Octets
  /-- The reads still to come; behind them every read finds the end of the stream. -/
  arrivals : List Arrival
  reads : Nat

namespace Reader

def start (limit : Nat) (arrivals : List Arrival) : Reader := ⟨limit, [], arrivals, 0⟩

/-- The frame or the failure that a buffer begins with, and what is behind it. -/
def settled (limit : Nat) (buffer : Octets) : Option (Except FrameError Frame × Octets) :=
  match Frame.decode limit buffer with
  | (.frame f, rest) => some (.ok f, rest)
  | (.failed e, rest) => some (.error e, rest)
  | (.incomplete, _) => none

theorem settled_eq_none_iff {limit : Nat} {buffer : Octets} :
    settled limit buffer = none ↔ (Frame.decode limit buffer).1 = .incomplete := by
  unfold settled
  split <;> simp_all

theorem settled_of_frame {limit : Nat} {buffer rest : Octets} {f : Frame}
    (h : Frame.decode limit buffer = (.frame f, rest)) :
    settled limit buffer = some (.ok f, rest) := by
  simp only [settled, h]

theorem settled_of_failed {limit : Nat} {buffer rest : Octets} {e : FrameError}
    (h : Frame.decode limit buffer = (.failed e, rest)) :
    settled limit buffer = some (.error e, rest) := by
  simp only [settled, h]

theorem length_of_settled {limit : Nat} {buffer rest : Octets} {f : Frame}
    (h : settled limit buffer = some (.ok f, rest)) : rest.length < buffer.length := by
  unfold settled at h
  split at h
  · rename_i g tail hd
    have := Frame.length_decode_of_resumes limit false buffer
      (by simp [hd, Decoded.resumes])
    simp only [hd, Frame.overhead, Option.some.injEq, Prod.mk.injEq] at this h
    obtain ⟨-, rfl⟩ := h
    omega
  · simp at h
  · simp at h

def nextBuffered (r : Reader) : Except FrameError (Option Frame) × Reader :=
  match settled r.limit r.buffer with
  | some (answer, rest) => (answer.map some, { r with buffer := rest })
  | none => (.ok none, r)

/-- Read until the buffer begins with a frame. An interrupted read is made again; any other
failure ends the attempt and keeps the buffer. -/
def readFrom (limit : Nat) (buffer : Octets) (reads : Nat) :
    List Arrival → Except FrameError Frame × Reader
  | [] =>
    match settled limit buffer with
    | some (answer, rest) => (answer, ⟨limit, rest, [], reads⟩)
    | none => (.error .connectionClosed, ⟨limit, buffer, [], reads + 1⟩)
  | arrival :: more =>
    match settled limit buffer with
    | some (answer, rest) => (answer, ⟨limit, rest, arrival :: more, reads⟩)
    | none =>
      match arrival with
      | .octets [] => (.error .connectionClosed, ⟨limit, buffer, more, reads + 1⟩)
      | .octets bs => readFrom limit (buffer ++ bs) (reads + 1) more
      | .failure e =>
        if e.kind = .interrupted then readFrom limit buffer (reads + 1) more
        else (.error (.io e), ⟨limit, buffer, more, reads + 1⟩)

/-- What came of some reads. -/
structure Gathered where
  octets : Octets
  reads : Nat
  /-- Why no more were made, if it was not that enough had come. -/
  failure : Option FrameError
  arrivals : List Arrival

def gather : Nat → List Arrival → Gathered
  | 0, arrivals => ⟨[], 0, none, arrivals⟩
  | _ + 1, [] => ⟨[], 1, some .connectionClosed, []⟩
  | wanted + 1, arrival :: more =>
    match arrival with
    | .octets [] => ⟨[], 1, some .connectionClosed, more⟩
    | .octets bs =>
      let g := gather (wanted + 1 - bs.length) more
      { g with octets := bs ++ g.octets, reads := g.reads + 1 }
    | .failure e =>
      if e.kind = .interrupted then
        let g := gather (wanted + 1) more
        { g with reads := g.reads + 1 }
      else ⟨[], 1, some (.io e), more⟩

theorem length_arrivals_gather {wanted : Nat} {arrivals : List Arrival} (hw : 0 < wanted)
    (h : (gather wanted arrivals).failure = none) :
    (gather wanted arrivals).arrivals.length < arrivals.length := by
  fun_induction gather wanted arrivals with
  | case1 => simp at hw
  | case2 => simp at h
  | case3 => simp at h
  | case4 wanted more bs hb g ih =>
    by_cases hl : 0 < wanted + 1 - bs.length
    · exact Nat.lt_succ_of_lt (ih hl h)
    · have hz : wanted + 1 - bs.length = 0 := by omega
      simp [g, hz, gather]
  | case5 wanted more e hi g ih => exact Nat.lt_succ_of_lt (ih hw h)
  | case6 => simp at h

/-- As `readFrom` reads, but the buffer is put together and looked at again only when what was
missing from it has come, so that a long frame takes time in proportion to its length. -/
def readGathering (limit : Nat) (buffer : Octets) (reads : Nat) (arrivals : List Arrival) :
    Except FrameError Frame × Reader :=
  match _hs : settled limit buffer with
  | some (answer, rest) => (answer, ⟨limit, rest, arrivals, reads⟩)
  | none =>
    let g := gather (Frame.missing buffer) arrivals
    match _hg : g.failure with
    | some e => (.error e, ⟨limit, buffer ++ g.octets, g.arrivals, reads + g.reads⟩)
    | none => readGathering limit (buffer ++ g.octets) (reads + g.reads) g.arrivals
  termination_by arrivals.length
  decreasing_by
    exact length_arrivals_gather (Frame.missing_pos (settled_eq_none_iff.mp _hs)) _hg

theorem readFrom_of_settled {limit reads : Nat} {buffer rest : Octets} {arrivals : List Arrival}
    {answer : Except FrameError Frame} (h : settled limit buffer = some (answer, rest)) :
    readFrom limit buffer reads arrivals = (answer, ⟨limit, rest, arrivals, reads⟩) := by
  cases arrivals <;> simp [readFrom, h]

theorem readFrom_gather {limit reads : Nat} {buffer : Octets} {arrivals : List Arrival}
    (h : settled limit buffer = none) :
    readFrom limit buffer reads arrivals =
      let g := gather (Frame.missing buffer) arrivals
      match g.failure with
      | some e => (.error e, ⟨limit, buffer ++ g.octets, g.arrivals, reads + g.reads⟩)
      | none => readFrom limit (buffer ++ g.octets) (reads + g.reads) g.arrivals := by
  induction arrivals generalizing buffer reads with
  | nil =>
    obtain ⟨w, hw⟩ := Nat.exists_eq_add_of_lt (Frame.missing_pos (settled_eq_none_iff.mp h))
    simp [readFrom, h, hw, gather]
  | cons arrival more ih =>
    have hd := settled_eq_none_iff.mp h
    obtain ⟨w, hw⟩ := Nat.exists_eq_add_of_lt (Frame.missing_pos hd)
    rw [Nat.zero_add] at hw
    match arrival with
    | .octets [] => simp [readFrom, h, hw, gather]
    | .octets (b :: bs) =>
      simp only [readFrom, h, hw, gather]
      by_cases hl : (b :: bs).length < Frame.missing buffer
      · obtain ⟨hi, hm⟩ := Frame.incomplete_append hd hl
        rw [ih (settled_eq_none_iff.mpr hi), hm, hw]
        simp [Nat.add_assoc, Nat.add_comm 1]
      · rw [show w + 1 - (b :: bs).length = 0 by omega]
        simp [gather]
    | .failure e =>
      by_cases hi : e.kind = .interrupted
      · simp [readFrom, h, hi, ih h, hw, gather, Nat.add_assoc, Nat.add_comm 1]
      · simp [readFrom, h, hi, hw, gather]

theorem readGathering_eq (limit : Nat) (buffer : Octets) (reads : Nat) (arrivals : List Arrival) :
    readGathering limit buffer reads arrivals = readFrom limit buffer reads arrivals := by
  fun_induction readGathering limit buffer reads arrivals with
  | case1 buffer reads arrivals answer rest hs => exact (readFrom_of_settled hs).symm
  | case2 buffer reads arrivals hs g e hg =>
    rw [readFrom_gather hs]
    simp only [g, hg]
  | case3 buffer reads arrivals hs g hg ih =>
    rw [ih, readFrom_gather hs]
    simp only [g, hg]

def readFrame (r : Reader) : Except FrameError Frame × Reader :=
  readGathering r.limit r.buffer r.reads r.arrivals

theorem readFrame_eq (r : Reader) :
    r.readFrame = readFrom r.limit r.buffer r.reads r.arrivals :=
  readGathering_eq r.limit r.buffer r.reads r.arrivals

/-- Give back what a long frame took, if nothing is pending. How much a buffer could hold does not
show. -/
def releaseBuffers (r : Reader) : Reader :=
  if r.buffer = [] then { r with buffer := [] } else r

theorem releaseBuffers_eq (r : Reader) : r.releaseBuffers = r := by
  unfold releaseBuffers
  split
  · rename_i empty
    rw [← empty]
  · rfl

end Reader

inductive ReaderCall
  | readFrame | nextBuffered | releaseBuffers
  deriving DecidableEq

namespace Reader

/-- The frame or the failure that a call reports, if it reports any. -/
def call (r : Reader) : ReaderCall → Option (Except FrameError Frame) × Reader
  | .readFrame => (some r.readFrame.1, r.readFrame.2)
  | .nextBuffered =>
    match r.nextBuffered with
    | (.ok (some f), r) => (some (.ok f), r)
    | (.ok none, r) => (none, r)
    | (.error e, r) => (some (.error e), r)
  | .releaseBuffers => (none, r.releaseBuffers)

def callAll (r : Reader) : List ReaderCall → List (Except FrameError Frame) × Reader
  | [] => ([], r)
  | c :: calls =>
    let (report, r) := r.call c
    let (reports, r) := r.callAll calls
    (report.toList ++ reports, r)

end Reader
end Multiplex
