import RouteDiscovery.Proofs.Inbox.Streams
import RouteDiscovery.Proofs.Stream.Remainder

/-!
The counters of an inbox are exact. Every stream ever made is live or evicted, every packet counted
was yielded, and every byte received was given up, was part of a packet that was yielded, waits in
a stream, or was dropped with one.
-/
namespace RouteDiscovery
open Wire

theorem Packet.Codes.length_flatten {packets : List Packet} {codes : List Bytes}
    (h : Packet.Codes packets codes) : codes.flatten.length = total (packets.map Packet.size) := by
  induction h with
  | nil => rfl
  | cons hcode _ ih =>
    rw [List.flatten_cons, List.length_append, Packet.length_of_encode hcode, ih, List.map_cons,
      total_cons]

/-- A drain loses no byte: what it does not take or keep it gives up. -/
theorem Stream.length_backlog (stream : Stream) :
    stream.backlog.length + stream.discarded =
      total (stream.drain.1.map Packet.size) + stream.drain.2.backlog.length +
        stream.drain.2.discarded := by
  obtain ⟨packets, rest, h⟩ := exists_parses stream.backlog
  obtain ⟨codes, hcodes, hsplit⟩ := h.exists_codes
  have hlength : stream.backlog.length = total (packets.map Packet.size) + rest.length := by
    rw [hsplit, List.length_append, hcodes.length_flatten]
  rw [drain_of_parses h, hlength]
  by_cases hwaits : Incomplete rest
  · simp only [if_pos hwaits]
    omega
  · simp only [if_neg hwaits, List.length_nil]
    omega

namespace Inbox
variable {inbox : Inbox} {streams : List (StreamKey × Stream)}

/-- The bytes that wait in the streams. -/
def waiting (streams : List (StreamKey × Stream)) : Nat :=
  total (streams.map (·.2.backlog.length))

/-- The bytes that the streams have given up. -/
def givenUp (streams : List (StreamKey × Stream)) : Nat :=
  total (streams.map (·.2.discarded))

theorem waiting_feed (key : StreamKey) (bytes : Bytes) (now : Time)
    (streams : List (StreamKey × Stream)) :
    waiting (feed key bytes now streams) = waiting streams + bytes.length := by
  induction streams with
  | nil => simp [waiting, feed, Stream.receive]
  | cons first rest ih =>
    obtain ⟨front, stream⟩ := first
    unfold waiting at ih ⊢
    unfold feed
    split_ifs with hkey hless
    · simp only [List.map_cons, total_cons, Stream.receive, List.length_append]
      omega
    · simp only [List.map_cons, total_cons, Stream.receive, List.length_append, List.length_nil]
      omega
    · simp only [List.map_cons, total_cons, ih]
      omega

theorem Sorted.length_feed (h : Sorted streams) (key : StreamKey) (bytes : Bytes) (now : Time) :
    (Inbox.feed key bytes now streams).length =
      streams.length + if (lookup key streams).isSome then 0 else 1 := by
  induction streams with
  | nil => rfl
  | cons first rest ih =>
    obtain ⟨front, stream⟩ := first
    unfold Inbox.feed
    by_cases hkey : key = front
    · simp [hkey]
    · have hskip : lookup key ((front, stream) :: rest) = lookup key rest := by
        simp [Ne.symm hkey]
      rw [if_neg hkey, hskip]
      by_cases hless : key.rank < front.rank
      · rw [if_pos hless, h.lookup_eq_none hless.le]
        rfl
      · rw [if_neg hless, List.length_cons, List.length_cons, ih (List.Pairwise.of_cons h)]
        omega

/-- All packets that a processing yields. -/
theorem packets_process (inbox : Inbox) :
    inbox.process.1.flatMap (·.packets) = inbox.streams.flatMap (·.2.drain.1) := by
  rw [process_fst]
  induction inbox.streams with
  | nil => rfl
  | cons first rest ih =>
    rw [List.flatMap_cons, ← ih, List.filterMap_cons]
    cases hbatch : first.2.batch? first.1 with
    | none =>
      have hempty : first.2.drain.1 = [] := by
        unfold Stream.batch? at hbatch
        split_ifs at hbatch with hempty
        exact List.isEmpty_iff.mp hempty
      rw [hempty, List.nil_append]
    | some batch => rw [List.flatMap_cons, (key_of_batch? hbatch).2.1]

theorem waiting_drain (streams : List (StreamKey × Stream)) :
    let drained := streams.map fun entry => (entry.1, entry.2.drain.2)
    waiting streams + givenUp streams =
      total ((streams.flatMap (·.2.drain.1)).map Packet.size) + waiting drained +
        givenUp drained ∧
      givenUp streams ≤ givenUp drained := by
  unfold waiting givenUp
  induction streams with
  | nil => exact ⟨rfl, Nat.le_refl 0⟩
  | cons first rest ih =>
    have hfirst := first.2.length_backlog
    have hmore : first.2.discarded ≤ first.2.drain.2.discarded := Nat.le_add_right _ _
    simp only [List.map_cons, total_cons, List.flatMap_cons, List.map_append, total_append]
      at ih ⊢
    omega

theorem waiting_filter (p : StreamKey × Stream → Bool) (streams : List (StreamKey × Stream)) :
    waiting streams =
      waiting (streams.filter p) + waiting (streams.filter fun entry => !p entry) := by
  unfold waiting
  induction streams with
  | nil => rfl
  | cons first rest ih =>
    by_cases hfirst : p first = true
    · simp only [List.filter_cons, hfirst, if_true, Bool.not_true, Bool.false_eq_true, if_false,
        List.map_cons, total_cons, ih]
      omega
    · simp only [List.filter_cons, hfirst, if_false, Bool.not_false, if_true, Bool.false_eq_true,
        List.map_cons, total_cons, ih]
      omega

/-- An eviction drops just the idle streams. -/
theorem gone_evictIdle (inbox : Inbox) (now : Time) (timeout : Nat) :
    (inbox.streams.filter fun entry => entry ∉ (inbox.evictIdle now timeout).2.streams) =
      inbox.streams.filter fun entry => entry.2.isIdle now timeout := by
  have hkept : (inbox.evictIdle now timeout).2.streams =
      inbox.streams.filter fun entry => !entry.2.isIdle now timeout := rfl
  apply List.filter_congr
  intro entry hentry
  rw [hkept]
  simp [hentry]

end Inbox

/-- An inbox with all packets that it has yielded, and the streams that it has evicted as they were
then. -/
structure InboxRun where
  inbox : Inbox := {}
  yielded : List Packet := []
  dropped : List Stream := []

namespace InboxRun
open Inbox

def step (run : InboxRun) : Inbox.Action → InboxRun
  | .receive key bytes now => { run with inbox := run.inbox.receive key bytes now }
  | .process =>
    let (batches, inbox) := run.inbox.process
    { run with inbox, yielded := run.yielded ++ batches.flatMap (·.packets) }
  | .evictIdle now timeout =>
    let (_, inbox) := run.inbox.evictIdle now timeout
    let gone := run.inbox.streams.filter fun entry => entry ∉ inbox.streams
    { run with inbox, dropped := run.dropped ++ gone.map (·.2) }

/-- A new inbox behind some actions. -/
def after (actions : List Inbox.Action) : InboxRun :=
  actions.foldl step {}

/-- The counters say what became of all streams, packets and bytes. -/
structure Balanced (run : InboxRun) : Prop where
  sorted : Sorted run.inbox.streams
  created : run.inbox.metrics.created = run.inbox.streams.length + run.inbox.metrics.evicted
  evicted : run.inbox.metrics.evicted = run.dropped.length
  decoded : run.inbox.metrics.decoded = run.yielded.length
  received : run.inbox.metrics.received =
    run.inbox.metrics.discarded + total (run.yielded.map Packet.size) +
      waiting run.inbox.streams + total (run.dropped.map (·.backlog.length))

section Balanced
variable {run : InboxRun}

theorem balanced_new : ({} : InboxRun).Balanced :=
  ⟨List.Pairwise.nil, rfl, rfl, rfl, rfl⟩

theorem Balanced.receive (h : run.Balanced) (key : StreamKey) (bytes : Bytes) (now : Time) :
    (run.step (.receive key bytes now)).Balanced where
  sorted := h.sorted.feed key bytes now
  created := by
    have hlength := h.sorted.length_feed key bytes now
    have hcreated := h.created
    rw [← stream?_eq_lookup] at hlength
    simp only [step, Inbox.receive, hlength, hcreated]
    omega
  evicted := h.evicted
  decoded := h.decoded
  received := by
    simp only [step, Inbox.receive, waiting_feed, h.received]
    omega

theorem Balanced.process (h : run.Balanced) : (run.step .process).Balanced where
  sorted := h.sorted.process
  created := by
    have hlength : run.inbox.process.2.streams.length = run.inbox.streams.length := by
      rw [process_streams, List.length_map]
    simp only [step, hlength]
    exact h.created
  evicted := h.evicted
  decoded := by
    have hdecoded : run.inbox.process.2.metrics.decoded = run.inbox.metrics.decoded +
        total (run.inbox.process.1.map (·.packets.length)) := rfl
    simp only [step, hdecoded, h.decoded, List.length_append, List.length_flatMap]
    rfl
  received := by
    obtain ⟨hbytes, hmore⟩ := waiting_drain run.inbox.streams
    rw [← process_streams] at hbytes hmore
    have hdiscarded : run.inbox.process.2.metrics.discarded = run.inbox.metrics.discarded +
        (givenUp run.inbox.process.2.streams - givenUp run.inbox.streams) := rfl
    have hreceived : run.inbox.process.2.metrics.received = run.inbox.metrics.received := rfl
    simp only [step, packets_process, List.map_append, total_append, hdiscarded, hreceived,
      h.received]
    omega

theorem Balanced.evictIdle (h : run.Balanced) (now : Time) (timeout : Nat) :
    (run.step (.evictIdle now timeout)).Balanced := by
  have hcount := List.length_eq_length_filter_add (l := run.inbox.streams)
    fun entry => entry.2.isIdle now timeout
  have hbytes := waiting_filter (fun entry => entry.2.isIdle now timeout) run.inbox.streams
  have hcreated := h.created
  have hreceived := h.received
  unfold waiting at hbytes hreceived
  refine ⟨h.sorted.filter _, ?_, ?_, h.decoded, ?_⟩
  · simp only [step, Inbox.evictIdle]
    omega
  · simp only [step, gone_evictIdle, List.length_append, List.length_map, ← h.evicted]
    simp only [Inbox.evictIdle]
    omega
  · simp only [step, gone_evictIdle, List.map_append, total_append, List.map_map]
    simp only [Inbox.evictIdle, waiting, Function.comp_def]
    omega

theorem Balanced.step (h : run.Balanced) (action : Inbox.Action) : (run.step action).Balanced := by
  cases action with
  | receive key bytes now => exact h.receive key bytes now
  | process => exact h.process
  | evictIdle now timeout => exact h.evictIdle now timeout

theorem Balanced.foldl (h : run.Balanced) (actions : List Inbox.Action) :
    (actions.foldl InboxRun.step run).Balanced := by
  induction actions generalizing run with
  | nil => exact h
  | cons first rest ih => exact ih (h.step first)

/-- Whatever arrives, every stream ever created is live or was evicted, as many packets are counted
as were yielded, and the bytes received are those given up, those of the packets that were yielded,
those that wait in live streams and those that evicted streams held when they were dropped. -/
theorem counters_exact (actions : List Inbox.Action) :
    let run := after actions
    let metrics := run.inbox.metrics
    metrics.created = run.inbox.streams.length + metrics.evicted ∧
      metrics.evicted = run.dropped.length ∧
      metrics.decoded = run.yielded.length ∧
      metrics.received = metrics.discarded + total (run.yielded.map Packet.size) +
        total (run.inbox.streams.map (·.2.backlog.length)) +
        total (run.dropped.map (·.backlog.length)) := by
  intro run metrics
  have h : run.Balanced := balanced_new.foldl actions
  exact ⟨h.created, h.evicted, h.decoded, h.received⟩

end Balanced
end InboxRun
end RouteDiscovery
