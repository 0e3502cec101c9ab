import Mathlib.Data.List.Induction
import Multiplex.Link.Loopback
import Multiplex.Proofs.Session.Conduct
import Multiplex.Proofs.Upcoming

/-! How a message is put together again. It is there as soon as the pieces of its body add up to the
size that its header declares, however they were cut; a piece that goes beyond, or any other frame,
spoils it. -/

namespace Multiplex

/-- These pieces add up to so many octets, and no fewer of them do. -/
def Completes (size : Nat) (pieces : List Octets) : Prop :=
  pieces.flatten.length = size ∧ ∀ first, first <+: pieces → first.flatten.length = size →
    first = pieces

/-- A header, and a body that is cut into pieces. -/
def ContentHeader.content (h : ContentHeader) (pieces : List Octets) : List Payload :=
  .header h :: pieces.map .body

/-- Frames that a message begins with, a frame that does not go with them, and what a reader of
channel `c` is told of it. -/
inductive Spoils (c : ChannelId) : List Frame → Frame → SessionError → Prop
  | headless {f : Frame} (other : ∀ h, f.payload ≠ .header h) :
    Spoils c [] f (.unexpectedFrame c .header f.kind)
  | stray {early : List Frame} {f : Frame} {h : ContentHeader} {pieces : List Octets}
    (carried : early.map (·.payload) = h.content pieces)
    (short : pieces.flatten.length < h.bodySize.toNat) (other : ∀ piece, f.payload ≠ .body piece) :
    Spoils c early f (.unexpectedFrame c .body f.kind)
  | beyond {early : List Frame} {f : Frame} {h : ContentHeader} {pieces : List Octets}
    {piece : Octets} (carried : early.map (·.payload) = h.content pieces)
    (short : pieces.flatten.length < h.bodySize.toNat) (payload : f.payload = .body piece)
    (large : h.bodySize.toNat < pieces.flatten.length + piece.length) :
    Spoils c early f (.bodyOverflow c h.bodySize.toNat (pieces.flatten.length + piece.length))

/-- A header and then just the pieces that it takes, and the message that they make. -/
def Carries (frames : List Frame) (msg : Message) : Prop :=
  ∃ (h : ContentHeader) (pieces : List Octets), frames.map (·.payload) = h.content pieces ∧
    Completes h.bodySize.toNat pieces ∧ msg = ⟨h.classId, h.properties, pieces.flatten⟩

section Pieces

variable {size : Nat} {pieces : List Octets} {piece : Octets}

theorem completes_nil : Completes 0 [] :=
  ⟨rfl, fun _ begins _ => List.prefix_nil.mp begins⟩

theorem completes_concat (short : pieces.flatten.length < size)
    (whole : pieces.flatten.length + piece.length = size) : Completes size (pieces ++ [piece]) := by
  refine ⟨by simpa using whole, fun first begins full => ?_⟩
  rcases List.prefix_concat_iff.mp begins with same | ⟨rest, rfl⟩
  · exact same
  · rw [List.flatten_append, List.length_append] at short
    omega

theorem Completes.short (completes : Completes size (pieces ++ [piece])) :
    pieces.flatten.length < size := by
  obtain ⟨full, shortest⟩ := completes
  have bound : pieces.flatten.length ≤ size := by simp [← full]
  refine Nat.lt_of_le_of_ne bound fun whole => ?_
  simpa using shortest pieces (List.prefix_append ..) whole

/-- If some pieces add up, as many of the first as it takes do. -/
theorem exists_completes (whole : pieces.flatten.length = size) :
    ∃ first more, pieces = first ++ more ∧ Completes size first ∧
      first.flatten = pieces.flatten := by
  induction pieces using List.reverseRecOn with
  | nil =>
    obtain rfl : size = 0 := by simpa using whole.symm
    exact ⟨[], [], rfl, completes_nil, rfl⟩
  | append_singleton pieces piece ih =>
    by_cases empty : piece = []
    · subst empty
      obtain ⟨first, more, rfl, completes, same⟩ := ih (by simpa using whole)
      exact ⟨first, more ++ [[]], by simp, completes, by simpa using same⟩
    · have positive := List.length_pos_iff.mpr empty
      have whole : pieces.flatten.length + piece.length = size := by simpa using whole
      exact ⟨pieces ++ [piece], [], by simp, completes_concat (by omega) whole, rfl⟩

end Pieces

namespace Session

open Multiplex.Action

variable {σ : Type} {s : Session} {link : σ} {c : ChannelId} {f : Frame} {h : ContentHeader}
  {body : Spool} {pieces : List Octets} {frames : List Frame}

theorem closing?_of_header (payload : f.payload = .header h) : f.closing? c = none := by
  simp [Frame.closing?, Frame.method?, payload]

theorem closing?_of_body {piece : Octets} (payload : f.payload = .body piece) :
    f.closing? c = none := by
  simp [Frame.closing?, Frame.method?, payload]

/-- As long as too little has come the reader takes up piece after piece. -/
theorem takes_pieces (body : Spool) (carried : frames.map (·.payload) = pieces.map .body)
    (short : body.size + pieces.flatten.length < h.bodySize.toNat) :
    ∃ body' : Spool, body'.octets = body.octets ++ pieces.flatten ∧
      Takes c (takeContent c) (.awaitingBody h body) frames (.awaitingBody h body') := by
  induction pieces generalizing frames body with
  | nil =>
    obtain rfl : frames = [] := by simpa using carried
    exact ⟨body, by simp, .nil _⟩
  | cons piece pieces ih =>
    obtain ⟨f, rest, rfl, payload, carried⟩ := List.map_eq_cons_iff.mp carried
    have short : (body.push piece).size + pieces.flatten.length < h.bodySize.toNat := by
      simpa [Nat.add_assoc] using short
    have more : takeContent c (.awaitingBody h body) f =
        .more (.awaitingBody h (body.push piece)) := by
      simp only [takeContent, payload]
      rw [if_neg (by omega), if_neg (by omega)]
    obtain ⟨body', octets, takes⟩ := ih (body.push piece) carried short
    exact ⟨body', by simp [octets], .cons f _ _ _ rest (closing?_of_body payload) more takes⟩

theorem takes_header (carried : frames.map (·.payload) = h.content pieces)
    (short : pieces.flatten.length < h.bodySize.toNat) :
    ∃ body : Spool, body.octets = pieces.flatten ∧
      Takes c (takeContent c) .awaitingHeader frames (.awaitingBody h body) := by
  obtain ⟨f, rest, rfl, payload, carried⟩ := List.map_eq_cons_iff.mp carried
  have sized : h.bodySize ≠ 0 := by
    rintro zero
    simp [zero] at short
  have more : takeContent c .awaitingHeader f = .more (.awaitingBody h .empty) := by
    simp [takeContent, payload, sized]
  obtain ⟨body, octets, takes⟩ := takes_pieces .empty carried (by simpa using short)
  exact ⟨body, by simpa using octets, .cons f _ _ _ rest (closing?_of_header payload) more takes⟩

theorem bodySize_eq_zero : h.bodySize = 0 ↔ h.bodySize.toNat = 0 := by
  rw [← UInt64.toNat_inj]
  rfl

theorem takeContent_header_more {b : Assembly}
    (took : takeContent c .awaitingHeader f = .more b) :
    ∃ h, f.payload = .header h ∧ 0 < h.bodySize.toNat ∧ b = .awaitingBody h .empty := by
  simp only [takeContent, bodySize_eq_zero] at took
  grind

theorem takeContent_header_done {msg : Message}
    (took : takeContent c .awaitingHeader f = .done msg) :
    ∃ h, f.payload = .header h ∧ h.bodySize.toNat = 0 ∧ msg = ⟨h.classId, h.properties, []⟩ := by
  simp only [takeContent, bodySize_eq_zero] at took
  grind

theorem takeContent_body_more {b : Assembly}
    (took : takeContent c (.awaitingBody h body) f = .more b) :
    ∃ piece, f.payload = .body piece ∧ (body.push piece).size < h.bodySize.toNat ∧
      b = .awaitingBody h (body.push piece) := by
  simp only [takeContent] at took
  grind

theorem takeContent_body_done {msg : Message}
    (took : takeContent c (.awaitingBody h body) f = .done msg) :
    ∃ piece, f.payload = .body piece ∧ (body.push piece).size = h.bodySize.toNat ∧
      msg = ⟨h.classId, h.properties, (body.push piece).octets⟩ := by
  simp only [takeContent] at took
  grind

theorem pieces_of_takes {b : Assembly}
    (takes : Takes c (takeContent c) (.awaitingBody h body) frames b)
    (short : body.size < h.bodySize.toNat) :
    ∃ (pieces : List Octets) (body' : Spool), frames.map (·.payload) = pieces.map .body ∧
      body'.octets = body.octets ++ pieces.flatten ∧ body'.size < h.bodySize.toNat ∧
      b = .awaitingBody h body' := by
  generalize start : Assembly.awaitingBody h body = b₀ at takes
  induction takes generalizing body with
  | nil b =>
    subst start
    exact ⟨[], body, rfl, by simp, short, rfl⟩
  | cons f b b' b'' frames harmless took rest ih =>
    subst start
    obtain ⟨piece, payload, short, rfl⟩ := takeContent_body_more took
    obtain ⟨pieces, body', carried, octets, short, rfl⟩ := ih short rfl
    exact ⟨piece :: pieces, body', by simp [payload, carried], by simp [octets], short, rfl⟩

theorem carries_of_takes {b : Assembly} {msg : Message}
    (takes : Takes c (takeContent c) .awaitingHeader frames b)
    (took : takeContent c b f = .done msg) : Carries (frames ++ [f]) msg := by
  cases takes with
  | nil =>
    obtain ⟨h, payload, sized, rfl⟩ := takeContent_header_done took
    exact ⟨h, [], by simp [payload, ContentHeader.content], sized ▸ completes_nil, rfl⟩
  | cons g b₀ b₁ b frames harmless more rest =>
    obtain ⟨h, payload, sized, rfl⟩ := takeContent_header_more more
    obtain ⟨pieces, body, carried, octets, short, rfl⟩ := pieces_of_takes rest sized
    obtain ⟨piece, last, full, rfl⟩ := takeContent_body_done took
    rw [Spool.octets_empty, List.nil_append] at octets
    have length : body.size = pieces.flatten.length := by rw [← octets, Spool.length_octets]
    refine ⟨h, pieces ++ [piece], ?_, completes_concat (length ▸ short) (length ▸ full),
      by simp [octets]⟩
    simp [payload, carried, last, ContentHeader.content]

theorem digest_of_completes {whole rest : List Frame}
    (carried : whole.map (·.payload) = h.content pieces)
    (completes : Completes h.bodySize.toNat pieces) :
    digest c (takeContent c) .awaitingHeader (whole ++ rest) =
      some (.ok ⟨h.classId, h.properties, pieces.flatten⟩, rest) := by
  cases pieces using List.reverseRecOn with
  | nil =>
    obtain ⟨f, rfl, payload⟩ : ∃ f : Frame, whole = [f] ∧ f.payload = .header h := by
      simpa [ContentHeader.content] using carried
    have sized : h.bodySize = 0 := bodySize_eq_zero.mpr completes.1.symm
    simp [digest, closing?_of_header payload, takeContent, payload, sized]
  | append_singleton pieces piece =>
    rw [ContentHeader.content, List.map_append, ← List.cons_append] at carried
    obtain ⟨early, late, rfl, begins, ends⟩ := List.map_eq_append_iff.mp carried
    obtain ⟨f, rfl, payload⟩ : ∃ f : Frame, late = [f] ∧ f.payload = .body piece := by
      simpa using ends
    obtain ⟨body, octets, takes⟩ := takes_header (c := c) begins completes.short
    have full : (body.push piece).size = h.bodySize.toNat := by
      rw [← completes.1, Spool.size_push, ← body.length_octets, octets]
      simp
    have done : takeContent c (.awaitingBody h body) f =
        .done ⟨h.classId, h.properties, (body.push piece).octets⟩ := by
      simp only [takeContent, payload]
      rw [if_neg (by omega), if_pos full]
    rw [List.append_assoc, takes.digest_append]
    simp [digest, closing?_of_body payload, done, octets]

section Spoiled

variable {early : List Frame} {b : Assembly} {e : SessionError}

theorem takeContent_header_failed : takeContent c .awaitingHeader f = .failed e ↔
    (∀ h, f.payload ≠ .header h) ∧ e = .unexpectedFrame c .header f.kind := by
  unfold takeContent Frame.kind
  grind

theorem takeContent_body_failed : takeContent c (.awaitingBody h body) f = .failed e ↔
    (∀ piece, f.payload ≠ .body piece) ∧ e = .unexpectedFrame c .body f.kind ∨
      ∃ piece, f.payload = .body piece ∧ h.bodySize.toNat < body.size + piece.length ∧
        e = .bodyOverflow c h.bodySize.toNat (body.size + piece.length) := by
  have size (piece : Octets) : (body.push piece).size = body.size + piece.length := by simp
  unfold takeContent Frame.kind
  grind

theorem digest_of_spoils (h : Spoils c early f e) (harmless : f.closing? c = none)
    (later : List Frame) :
    digest c (takeContent c) .awaitingHeader (early ++ f :: later) = some (.error e, later) := by
  have broken {b : Assembly} (takes : Takes c (takeContent c) .awaitingHeader early b)
      (fails : takeContent c b f = .failed e) :
      digest c (takeContent c) .awaitingHeader (early ++ f :: later) = some (.error e, later) := by
    rw [takes.digest_append]
    simp [digest, harmless, fails]
  cases h with
  | headless other => exact broken (.nil _) (takeContent_header_failed.mpr ⟨other, rfl⟩)
  | stray carried short other =>
    obtain ⟨body, octets, takes⟩ := takes_header (c := c) carried short
    exact broken takes (takeContent_body_failed.mpr (.inl ⟨other, rfl⟩))
  | @beyond early f h pieces piece carried short payload large =>
    obtain ⟨body, octets, takes⟩ := takes_header (c := c) carried short
    have size : body.size = pieces.flatten.length := by rw [← octets, Spool.length_octets]
    exact broken takes (takeContent_body_failed.mpr
      (.inr ⟨piece, payload, size ▸ large, by rw [size]⟩))

/-- There is no other way for the reading to end without a message. -/
theorem spoils_of_takes (takes : Takes c (takeContent c) .awaitingHeader early b)
    (fails : takeContent c b f = .failed e) : Spoils c early f e := by
  cases takes with
  | nil =>
    obtain ⟨other, rfl⟩ := takeContent_header_failed.mp fails
    exact .headless other
  | cons g b₀ b₁ b frames harmless more rest =>
    obtain ⟨h, payload, sized, rfl⟩ := takeContent_header_more more
    obtain ⟨pieces, body, carried, octets, short, rfl⟩ := pieces_of_takes rest sized
    have carried : (g :: frames).map (·.payload) = h.content pieces := by
      simp [payload, carried, ContentHeader.content]
    have size : body.size = pieces.flatten.length := by
      rw [← body.length_octets, octets, Spool.octets_empty, List.nil_append]
    rw [size] at short
    rcases takeContent_body_failed.mp fails with ⟨other, rfl⟩ | ⟨piece, payload, large, rfl⟩
    · exact .stray carried short other
    · rw [size] at large ⊢
      exact .beyond carried short payload large

end Spoiled

variable [Link σ] {own : List Frame}

theorem run_readContent (usable : s.connection = .open) (link : σ) :
    (readContent c).run s link =
      collect c "read_content" (takeContent c) .awaitingHeader s link := by
  unfold readContent
  rw [run_requireOpen_bind usable]

theorem hearing_readContent (usable : s.connection = .open) (opened : s.isOpen c) (link : σ) :
    Hearing c "read_content" (takeContent c) .awaitingHeader s ((readContent c).run s link) :=
  run_readContent usable link ▸ hearing_collect opened

theorem upcoming_readContent (usable : s.connection = .open) (opened : s.isOpen c) (link : σ) :
    Upcoming c s link (arrived c ((readContent c).run s link).trace) := by
  rw [run_readContent usable]
  exact upcoming_collect opened

theorem readContent_of_content (usable : s.connection = .open) (opened : s.isOpen c) {link : σ}
    (coming : Upcoming c s link own)
    (begins : h.content pieces <+: ((s.queue c).toList ++ own).map (·.payload))
    (whole : pieces.flatten.length = h.bodySize.toNat) :
    ((readContent c).run s link).result = .ok ⟨h.classId, h.properties, pieces.flatten⟩ := by
  obtain ⟨first, more, rfl, completes, same⟩ := exists_completes whole
  have earlier : h.content first <+: h.content (first ++ more) :=
    ⟨more.map .body, by simp [ContentHeader.content]⟩
  obtain ⟨later, came⟩ := earlier.trans begins
  obtain ⟨front, rest, split, carried, -⟩ := List.map_eq_append_iff.mp came.symm
  have made : digest c (takeContent c) .awaitingHeader ((s.queue c).toList ++ own) = _ :=
    split ▸ digest_of_completes carried completes
  rw [run_readContent usable, collect_of_upcoming coming opened made, same]

theorem readContent_of_spoils (usable : s.connection = .open) (opened : s.isOpen c) {link : σ}
    {early later : List Frame} {e : SessionError} (coming : Upcoming c s link own)
    (split : (s.queue c).toList ++ own = early ++ f :: later) (harmless : f.closing? c = none)
    (spoils : Spoils c early f e) : ((readContent c).run s link).result = .error e := by
  have made := digest_of_spoils spoils harmless later
  rw [← split] at made
  rw [run_readContent usable, collect_of_upcoming coming opened made]

/-- What comes of reading a message from a channel, given what is parked for it and what is still to
come. It is there if and only if these begin with a header and then pieces that add up to the
declared size, and then just what it took was read. How the body was cut makes no difference. A
frame that does not go with those before it ends the reading, and who gets no message met such a
frame, or a close, or had his waiting cut short. -/
theorem reassembles_readContent (usable : s.connection = .open) (opened : s.isOpen c) (link : σ) :
    let o := (readContent c).run s link
    let parked := (s.queue c).toList
    Upcoming c s link (arrived c o.trace) ∧
    (∀ msg, o.result = .ok msg ↔ ∃ (own : List Frame) (h : ContentHeader) (pieces : List Octets),
      Upcoming c s link own ∧ h.content pieces <+: (parked ++ own).map (·.payload) ∧
      pieces.flatten.length = h.bodySize.toNat ∧
      msg = ⟨h.classId, h.properties, pieces.flatten⟩) ∧
    (∀ msg, o.result = .ok msg → Carries (delivered c o.trace) msg ∧
      parked ++ arrived c o.trace = delivered c o.trace ++ (o.session.queue c).toList ∧
      ∀ x ∈ o.trace, x.close? = none ∧ x.obstructs = false) ∧
    (∀ (s' : Session) (link' : σ) (own own' : List Frame) (h : ContentHeader)
      (pieces pieces' : List Octets), s'.connection = .open → s'.isOpen c →
      Upcoming c s link own → Upcoming c s' link' own' →
      h.content pieces <+: (parked ++ own).map (·.payload) →
      h.content pieces' <+: ((s'.queue c).toList ++ own').map (·.payload) →
      pieces.flatten = pieces'.flatten → pieces.flatten.length = h.bodySize.toNat →
      o.result = ((readContent c).run s' link').result) ∧
    (∀ own early f later e, Upcoming c s link own → parked ++ own = early ++ f :: later →
      f.closing? c = none → Spoils c early f e → o.result = .error e) ∧
    ∀ e, o.result = .error e → (∃ x ∈ o.trace, x.close?.isSome ∨ x.obstructs) ∨
      ∃ early f later, parked ++ arrived c o.trace = early ++ f :: later ∧ f.closing? c = none ∧
        Spoils c early f e := by
  intro o parked
  have hearing : Hearing c "read_content" (takeContent c) .awaitingHeader s o :=
    hearing_readContent usable opened link
  have coming : Upcoming c s link (arrived c o.trace) := upcoming_readContent usable opened link
  refine ⟨coming, fun msg => ⟨fun got => ?_, ?_⟩, fun msg got => ?_, ?_, ?_, fun e failed => ?_⟩
  · obtain ⟨early, f, b, takes, took, handed, split⟩ := hearing.of_ok got
    obtain ⟨h, pieces, carried, completes, rfl⟩ := carries_of_takes takes took
    refine ⟨_, h, pieces, coming, ?_, completes.1, rfl⟩
    rw [← carried, ← handed]
    exact ⟨_, by rw [← List.map_append, ← split]; rfl⟩
  · rintro ⟨own, h, pieces, coming, begins, whole, rfl⟩
    exact readContent_of_content usable opened coming begins whole
  · obtain ⟨early, f, b, takes, took, handed, split⟩ := hearing.of_ok got
    exact ⟨handed ▸ carries_of_takes takes took, split, hearing.undisturbed got⟩
  · intro s' link' own own' h pieces pieces' usable' opened' coming coming' begins begins' same
      whole
    have first : o.result = _ := readContent_of_content usable opened coming begins whole
    rw [first, readContent_of_content usable' opened' coming' begins' (same ▸ whole), same]
  · intro own early f later e coming split harmless spoils
    exact readContent_of_spoils usable opened coming split harmless spoils
  · refine (hearing.because failed).imp_right ?_
    rintro ⟨early, f, later, b, split, takes, harmless, fails⟩
    exact ⟨early, f, later, split, harmless, spoils_of_takes takes fails⟩

def announced : Session :=
  ((Run.start .standard).performAll
    [(.acquire, { Loopback.start 0 with replies := Loopback.agreeable }),
      (.next 0 (some 0), (Loopback.start 0).push [.frame ⟨1, .header ⟨60, 3, [16]⟩⟩])]).session

/-- The body comes in pieces, of which one is empty, and with a frame for nobody in between. What
comes behind the last octet is left where it is. -/
theorem reassembles_announced :
    let link := (Loopback.start 0).push [.frame ⟨1, .body [104, 101]⟩, .frame ⟨0, .heartbeat⟩,
      .frame ⟨1, .body []⟩, .frame ⟨1, .body [121]⟩, .frame ⟨1, .body []⟩]
    let o := (readContent 1).run announced link
    announced.connection = .open ∧ announced.isOpen 1 ∧
    o.result = .ok ⟨60, [16], [104, 101, 121]⟩ ∧ o.link.incoming = [.frame ⟨1, .body []⟩] := by
  intro link o
  have usable : announced.connection = .open := by decide +kernel
  have opened : announced.isOpen 1 := by decide +kernel
  obtain ⟨coming, ok, -⟩ := reassembles_readContent usable opened link
  have began : (ContentHeader.mk 60 3 [16]).content [[104, 101], [], [121]] <+:
      ((announced.queue 1).toList ++ arrived 1 o.trace).map (·.payload) := by decide +kernel
  exact ⟨usable, opened, (ok _).mpr ⟨_, _, _, coming, began, rfl, rfl⟩, by decide +kernel⟩

end Session
end Multiplex
