import Mathlib.Algebra.BigOperators.Group.List.Lemmas
import Mathlib.Algebra.Ring.Nat
import Mathlib.Data.List.Induction
import Multiplex.Capture.Summary
import Multiplex.Frame.Codec

/-! The summary of a capture looks at each channel on its own: whatever comes in between on other
channels, the figures of a channel are those of its own frames, in the order in which they came. -/

namespace Multiplex

/-- The frames of a channel, in their order. -/
def Frame.sift (c : ChannelId) (frames : List Frame) : List Frame :=
  frames.filter (·.channel = c)

namespace ChannelSummary

def tell (c : ChannelId) (own : List Frame) : ChannelSummary :=
  own.foldl (fun s f => s.add f.payload) (blank c)

/-- A summary with the figures of these frames. -/
structure Tells (own : List Frame) (s : ChannelSummary) : Prop where
  methods : s.methods = own.countP (·.kind = .method)
  headers : s.headers = own.countP (·.kind = .header)
  bodies : s.bodies = own.countP (·.kind = .body)
  bodyOctets : s.bodyOctets = ((own.filter (·.kind = .body)).map (·.payload.size)).sum
  heartbeats : s.heartbeats = own.countP (·.kind = .heartbeat)
  lastMethod : s.lastMethod = (own.filterMap Frame.methodId?).getLast?

variable {c : ChannelId} {f : Frame} {own frames others : List Frame} {s : ChannelSummary}

@[simp] theorem tell_concat (c : ChannelId) (own : List Frame) (f : Frame) :
    tell c (own ++ [f]) = (tell c own).add f.payload := by
  simp [tell]

@[simp] theorem channel_add (s : ChannelSummary) (p : Payload) : (s.add p).channel = s.channel := by
  cases p <;> rfl

@[simp] theorem channel_tell (c : ChannelId) (own : List Frame) : (tell c own).channel = c := by
  induction own using List.reverseRecOn with
  | nil => rfl
  | append_singleton own f ih => rw [tell_concat, channel_add, ih]

namespace Tells

theorem nil (c : ChannelId) : Tells [] (blank c) := ⟨rfl, rfl, rfl, rfl, rfl, rfl⟩

theorem add (h : Tells own s) (f : Frame) : Tells (own ++ [f]) (s.add f.payload) := by
  obtain ⟨methods, headers, bodies, bodyOctets, heartbeats, lastMethod⟩ := h
  obtain ⟨channel, payload⟩ := f
  cases payload <;> constructor <;>
    simp [ChannelSummary.add, Frame.kind, Payload.kind, Payload.size, Frame.methodId?,
      Frame.method?, *]

theorem told (c : ChannelId) (own : List Frame) : Tells own (tell c own) := by
  induction own using List.reverseRecOn with
  | nil => exact .nil c
  | append_singleton own f ih =>
    rw [tell_concat]
    exact ih.add f

theorem sum_counts (h : Tells own s) :
    s.methods + s.headers + s.bodies + s.heartbeats = own.length := by
  rw [h.methods, h.headers, h.bodies, h.heartbeats]
  clear h
  induction own with
  | nil => rfl
  | cons f own ih =>
    rw [List.length_cons, ← ih]
    cases kind : f.kind <;> simp [kind] <;> omega

end Tells

/-- What is counted on other channels makes no difference. -/
theorem getElem?_tally (frames : List Frame) (c : ChannelId) :
    (frames.foldl count (∅ : Tally))[c]? =
      if Frame.sift c frames = [] then none else some (tell c (Frame.sift c frames)) := by
  induction frames using List.reverseRecOn with
  | nil => simp [Frame.sift]
  | append_singleton frames f ih =>
    rw [List.foldl_append, List.foldl_cons, List.foldl_nil, count, Std.ExtTreeMap.getElem?_insert]
    by_cases mine : f.channel = c
    · have more : Frame.sift c (frames ++ [f]) = Frame.sift c frames ++ [f] := by
        simp [Frame.sift, mine]
      have before : ((frames.foldl count (∅ : Tally))[c]?).getD (blank c) =
          tell c (Frame.sift c frames) := by
        rw [ih]
        by_cases none : Frame.sift c frames = []
        · rw [if_pos none, none]
          rfl
        · rw [if_neg none]
          rfl
      rw [mine, if_pos Std.compare_self, before, more, if_neg (by simp), tell_concat]
    · have same : Frame.sift c (frames ++ [f]) = Frame.sift c frames := by
        simp [Frame.sift, mine]
      rw [if_neg (mt Std.compare_eq_iff_eq.mp mine), ih, same]

theorem tally_congr (same : ∀ c, Frame.sift c frames = Frame.sift c others) :
    frames.foldl count (∅ : Tally) = others.foldl count ∅ := by
  apply Std.ExtTreeMap.ext_getElem?
  intro c
  rw [getElem?_tally, getElem?_tally, same c]

theorem eq_tell_of_mem (mem : (c, s) ∈ (frames.foldl count (∅ : Tally)).toList) :
    s = tell c (Frame.sift c frames) := by
  rw [Std.ExtTreeMap.mem_toList_iff_getElem?_eq_some, getElem?_tally] at mem
  split at mem
  · cases mem
  · exact (Option.some.inj mem).symm

theorem channels_ofFrames (frames : List Frame) :
    (ofFrames frames).map (·.channel) = (frames.foldl count (∅ : Tally)).keys := by
  rw [ofFrames, List.map_map, ← Std.ExtTreeMap.map_fst_toList_eq_keys]
  apply List.map_congr_left
  rintro ⟨c, s⟩ mem
  simp [eq_tell_of_mem mem]

theorem mem_channels_iff :
    c ∈ (ofFrames frames).map (·.channel) ↔ c ∈ frames.map (·.channel) := by
  rw [channels_ofFrames, Std.ExtTreeMap.mem_keys, Std.ExtTreeMap.mem_iff_isSome_getElem?,
    getElem?_tally]
  by_cases none : Frame.sift c frames = []
  · rw [if_pos none]
    simpa [Frame.sift] using none
  · rw [if_neg none]
    simpa [Frame.sift] using none

theorem channels_ascend (frames : List Frame) :
    ((ofFrames frames).map (·.channel)).Pairwise (· < ·) := by
  rw [channels_ofFrames]
  exact Std.ExtTreeMap.ordered_keys.imp fun before => Std.compare_eq_lt.mp before

theorem tells_of_mem (mem : s ∈ ofFrames frames) : Tells (Frame.sift s.channel frames) s := by
  obtain ⟨⟨c, _⟩, there, rfl⟩ := List.mem_map.mp mem
  rw [eq_tell_of_mem there, channel_tell]
  exact Tells.told c _

theorem sum_sifted (frames : List Frame) :
    (((ofFrames frames).map (·.channel)).map fun c => (Frame.sift c frames).length).sum =
      frames.length := by
  have once : ((ofFrames frames).map (·.channel)).Nodup :=
    (channels_ascend frames).imp UInt16.ne_of_lt
  have all : ((ofFrames frames).map (·.channel)).Perm (frames.map (·.channel)).dedup := by
    rw [List.perm_ext_iff_of_nodup once (List.nodup_dedup _)]
    intro c
    rw [List.mem_dedup, mem_channels_iff]
  have counted (c : ChannelId) :
      (Frame.sift c frames).length = (frames.map (·.channel)).count c := by
    rw [Frame.sift, ← List.countP_eq_length_filter, List.count, List.countP_map]
    apply List.countP_congr
    simp
  simp only [counted]
  rw [(all.map _).sum_nat, List.sum_map_count_dedup_eq_length, List.length_map]

/-- Whatever the frames: the summary has one entry for each channel that occurs, lowest channel
first, with the figures of the frames on that channel, and every frame is counted once. Nothing but
the frames of each channel, in their order, matters to it. -/
theorem summary_sifts (frames : List Frame) :
    let summary := ofFrames frames
    (summary.map (·.channel)).Pairwise (· < ·) ∧
    (∀ c, c ∈ summary.map (·.channel) ↔ ∃ f ∈ frames, f.channel = c) ∧
    (∀ s ∈ summary, s.Tells (Frame.sift s.channel frames)) ∧
    (summary.map fun s => s.methods + s.headers + s.bodies + s.heartbeats).sum = frames.length ∧
    ∀ others, (∀ c, Frame.sift c others = Frame.sift c frames) → ofFrames others = summary := by
  intro summary
  refine ⟨channels_ascend frames, fun c => ?_, fun s => tells_of_mem, ?_, fun others same => ?_⟩
  · rw [mem_channels_iff, List.mem_map]
  · have counts : (summary.map fun s => s.methods + s.headers + s.bodies + s.heartbeats) =
        (summary.map (·.channel)).map fun c => (Frame.sift c frames).length := by
      rw [List.map_map]
      apply List.map_congr_left
      intro s mem
      exact (tells_of_mem mem).sum_counts
    rw [counts, sum_sifted]
  · change ofFrames others = ofFrames frames
    rw [ofFrames, tally_congr same, ofFrames]

/-- Two methods on a channel with a piece of a body on another one between them, and in front. -/
theorem summary_sifts_interleaved :
    let p : Frame := ⟨2, .method ⟨.channelOpen, []⟩⟩
    let q : Frame := ⟨2, .method ⟨.basicReturn, []⟩⟩
    let b : Frame := ⟨1, .body [7, 0xCE]⟩
    (∀ c, Frame.sift c [b, p, q] = Frame.sift c [p, b, q]) ∧
      ofFrames [b, p, q] = ofFrames [p, b, q] ∧
      ofFrames [p, b, q] =
        [⟨1, 0, 0, 1, 2, 0, none⟩, ⟨2, 2, 0, 0, 0, 0, some .basicReturn⟩] := by
  intro p q b
  have same : ∀ c, Frame.sift c [b, p, q] = Frame.sift c [p, b, q] := by
    intro c
    by_cases two : 2 = c
    · subst two
      rfl
    · simp [Frame.sift, List.filter_cons, p, q, two]
  obtain ⟨-, -, -, -, congruent⟩ := summary_sifts [p, b, q]
  exact ⟨same, congruent [b, p, q] same, by decide +kernel⟩

end ChannelSummary
end Multiplex
