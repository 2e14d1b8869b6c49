import Mathlib.Data.Set.Card
import RouteDiscovery.Proofs.Inbox.Contents
import RouteDiscovery.Proofs.Keyed

/-!
The streams of an inbox know nothing of each other: each fares as a stream that stands alone, gets
only what has its key, and is given up when it has been idle too long.
-/
namespace RouteDiscovery
open Wire

namespace StreamKey
variable {first second : StreamKey}

/-- By sending address, then sending port, then receiving address. -/
def Before (first second : StreamKey) : Prop :=
  first.sender.address.bits < second.sender.address.bits ∨
    first.sender.address.bits = second.sender.address.bits ∧
      (first.sender.port < second.sender.port ∨
        first.sender.port = second.sender.port ∧ first.recipient.bits < second.recipient.bits)

theorem before_iff : first.Before second ↔ first.rank < second.rank := by
  have hport := first.sender.port.toNat_lt
  have hport' := second.sender.port.toNat_lt
  have hrecipient := first.recipient.bits.toNat_lt
  have hrecipient' := second.recipient.bits.toNat_lt
  simp only [Before, rank, UInt32.lt_iff_toNat_lt, UInt16.lt_iff_toNat_lt, ← UInt32.toNat_inj,
    ← UInt16.toNat_inj]
  omega

theorem rank_injective (h : first.rank = second.rank) : first = second := by
  obtain ⟨⟨⟨address⟩, port⟩, ⟨recipient⟩⟩ := first
  obtain ⟨⟨⟨address'⟩, port'⟩, ⟨recipient'⟩⟩ := second
  have hport := port.toNat_lt
  have hport' := port'.toNat_lt
  have hrecipient := recipient.toNat_lt
  have hrecipient' := recipient'.toNat_lt
  simp only [rank] at h
  simp only [mk.injEq, SocketAddress.mk.injEq, Address.mk.injEq, ← UInt32.toNat_inj,
    ← UInt16.toNat_inj]
  omega

end StreamKey

/-- What the stream yields now, if it yields anything. -/
def Stream.batch? (key : StreamKey) (stream : Stream) : Option Batch :=
  if stream.drain.1.isEmpty then none else some ⟨key, stream.drain.1⟩

namespace Inbox
variable {inbox : Inbox} {streams : List (StreamKey × Stream)} {key other : StreamKey}
  {bytes : Bytes} {now : Time} {timeout : Nat}

/-- The keys ascend strictly. -/
def Sorted (streams : List (StreamKey × Stream)) : Prop :=
  streams.Pairwise fun first second => first.1.rank < second.1.rank

/-- The stream of a key. -/
def lookup (key : StreamKey) (streams : List (StreamKey × Stream)) : Option Stream :=
  (streams.find? fun entry => entry.1 == key).map (·.2)

theorem stream?_eq_lookup (inbox : Inbox) (key : StreamKey) :
    inbox.stream? key = lookup key inbox.streams := rfl

@[simp] theorem lookup_nil (key : StreamKey) : lookup key [] = none := rfl

@[simp] theorem lookup_cons (key front : StreamKey) (stream : Stream)
    (streams : List (StreamKey × Stream)) :
    lookup key ((front, stream) :: streams) =
      if front = key then some stream else lookup key streams := by
  by_cases h : front = key <;> simp [lookup, h]

section Sorted

theorem Sorted.nodup (h : Sorted streams) : (streams.map (·.1)).Nodup := by
  rw [List.nodup_iff_pairwise_ne, List.pairwise_map]
  refine h.imp fun hless hsame => ?_
  rw [hsame] at hless
  exact Nat.lt_irrefl _ hless

theorem Sorted.lookup_eq_some_iff (h : Sorted streams) {stream : Stream} :
    lookup key streams = some stream ↔ (key, stream) ∈ streams := by
  simp only [lookup, Option.map_eq_some_iff, find?_key_eq_some_iff h.nodup]
  constructor
  · rintro ⟨entry, ⟨hmem, rfl⟩, rfl⟩
    exact hmem
  · intro hmem
    exact ⟨(key, stream), ⟨hmem, rfl⟩, rfl⟩

theorem Sorted.filter (h : Sorted streams) (p : StreamKey × Stream → Bool) :
    Sorted (streams.filter p) :=
  List.Pairwise.filter p h

theorem Sorted.feed (h : Sorted streams) (key : StreamKey) (bytes : Bytes) (now : Time) :
    Sorted (feed key bytes now streams) := by
  induction streams with
  | nil => simp [Inbox.feed, Sorted]
  | cons first rest ih =>
    obtain ⟨other, stream⟩ := first
    obtain ⟨hfirst, hrest⟩ := List.pairwise_cons.mp h
    unfold Inbox.feed
    split_ifs with hkey hless
    · exact List.pairwise_cons.mpr ⟨hfirst, hrest⟩
    · refine List.pairwise_cons.mpr ⟨fun entry hentry => ?_, h⟩
      rcases List.mem_cons.mp hentry with rfl | htail
      · exact hless
      · exact hless.trans (hfirst entry htail)
    · have hmore : other.rank < key.rank :=
        Nat.lt_of_le_of_ne (Nat.not_lt.mp hless) fun hrank =>
          hkey (StreamKey.rank_injective hrank.symm)
      refine List.pairwise_cons.mpr ⟨fun entry hentry => ?_, ih hrest⟩
      rcases mem_feed hentry with hold | ⟨_, -, rfl⟩
      · exact hfirst entry hold
      · exact hmore

theorem Sorted.lookup_eq_none {first : StreamKey × Stream} (h : Sorted (first :: streams))
    (hless : key.rank ≤ first.1.rank) : lookup key streams = none := by
  have hafter := (List.pairwise_cons.mp h).1
  simp only [lookup, Option.map_eq_none_iff, List.find?_eq_none, beq_iff_eq]
  intro entry hentry hkey
  have := hafter entry hentry
  rw [hkey] at this
  omega

/-- Feeding shows in the stream of the key only, which is a new one if there was none. -/
theorem Sorted.lookup_feed (h : Sorted streams) (key : StreamKey) (bytes : Bytes) (now : Time)
    (other : StreamKey) :
    lookup other (Inbox.feed key bytes now streams) =
      if key = other then some (((lookup key streams).getD {}).receive bytes now)
      else lookup other streams := by
  induction streams with
  | nil => simp [Inbox.feed]
  | cons first rest ih =>
    obtain ⟨front, stream⟩ := first
    unfold Inbox.feed
    by_cases hfront : key = front
    · subst hfront
      by_cases hother : key = other <;> simp [hother]
    · have hskip : lookup key ((front, stream) :: rest) = lookup key rest := by
        simp [Ne.symm hfront]
      rw [if_neg hfront, hskip]
      by_cases hless : key.rank < front.rank
      · -- All that follows has a greater key, so the stream of the key is new.
        rw [if_pos hless, lookup_cons, h.lookup_eq_none hless.le]
        rfl
      · rw [if_neg hless, lookup_cons, lookup_cons, ih (List.Pairwise.of_cons h)]
        by_cases hother : front = other
        · have hkey : key ≠ other := hother ▸ hfront
          simp [hother, hkey]
        · simp [hother]

end Sorted

section Process

theorem process_fst (inbox : Inbox) :
    inbox.process.1 = inbox.streams.filterMap fun entry => entry.2.batch? entry.1 := by
  simp only [process, List.filterMap_map]
  rfl

theorem process_streams (inbox : Inbox) :
    inbox.process.2.streams = inbox.streams.map fun entry => (entry.1, entry.2.drain.2) := by
  simp [process]

theorem Sorted.process (h : Sorted inbox.streams) : Sorted inbox.process.2.streams := by
  rw [process_streams]
  exact List.pairwise_map.mpr h

theorem key_of_batch? {stream : Stream} {batch : Batch} (h : stream.batch? key = some batch) :
    batch.key = key ∧ batch.packets = stream.drain.1 ∧ batch.packets ≠ [] := by
  unfold Stream.batch? at h
  split_ifs at h with hempty
  cases h
  exact ⟨rfl, rfl, by simpa using hempty⟩

theorem filter_batch? (front key : StreamKey) (stream : Stream) :
    (stream.batch? front).filter (·.key == key) =
      if front == key then stream.batch? front else none := by
  unfold Stream.batch?
  by_cases hempty : stream.drain.1.isEmpty = true <;> simp [hempty, Option.filter_some]

theorem lookup_map_drain (key : StreamKey) (streams : List (StreamKey × Stream)) :
    lookup key (streams.map fun entry => (entry.1, entry.2.drain.2)) =
      (lookup key streams).map (·.drain.2) := by
  induction streams with
  | nil => rfl
  | cons first rest ih =>
    obtain ⟨front, stream⟩ := first
    by_cases h : front = key <;> simp [h, ih]

/-- The batch of a key is what the stream of the key yields. -/
theorem Sorted.filter_process (h : Sorted inbox.streams) (key : StreamKey) :
    inbox.process.1.filter (·.key == key) =
      ((inbox.stream? key).bind fun stream => stream.batch? key).toList := by
  have hfilter : inbox.process.1.filter (·.key == key) =
      (inbox.streams.filter fun entry => entry.1 == key).filterMap fun entry =>
        entry.2.batch? entry.1 := by
    rw [process_fst, List.filter_filterMap, List.filterMap_filter]
    apply List.filterMap_congr
    intro entry _
    exact filter_batch? entry.1 key entry.2
  rw [hfilter, filter_key_eq_toList h.nodup, stream?]
  cases hfind : inbox.streams.find? fun entry => entry.1 == key with
  | none => rfl
  | some entry =>
    have hkey : entry.1 = key := by simpa using List.find?_some hfind
    subst hkey
    cases hbatch : entry.2.batch? entry.1 <;> simp [hbatch]

theorem Sorted.pairwise_process (h : Sorted inbox.streams) :
    inbox.process.1.Pairwise fun first second => first.key.Before second.key := by
  rw [process_fst]
  refine List.Pairwise.filterMap _ (fun first second hless batch hbatch other hother => ?_) h
  rw [(key_of_batch? hbatch).1, (key_of_batch? hother).1]
  exact StreamKey.before_iff.mpr hless

theorem packets_ne_nil {batch : Batch} (h : batch ∈ inbox.process.1) : batch.packets ≠ [] := by
  rw [process_fst] at h
  obtain ⟨entry, -, hbatch⟩ := List.mem_filterMap.mp h
  exact (key_of_batch? hbatch).2.2

end Process

section Evict

theorem Sorted.lookup_filter (h : Sorted streams) (p : Stream → Bool) (key : StreamKey) :
    lookup key (streams.filter fun entry => p entry.2) = (lookup key streams).filter p := by
  unfold lookup
  rw [find?_key_filter h.nodup]
  cases streams.find? fun entry => entry.1 == key with
  | none => rfl
  | some entry => by_cases hentry : p entry.2 = true <;> simp [Option.filter_some, hentry]

theorem Sorted.stream?_evictIdle (h : Sorted inbox.streams) (key : StreamKey) (now : Time)
    (timeout : Nat) : (inbox.evictIdle now timeout).2.stream? key =
      (inbox.stream? key).filter fun stream => !stream.isIdle now timeout :=
  h.lookup_filter (fun stream => !stream.isIdle now timeout) key

/-- As many streams are dropped as there are keys that lose theirs. -/
theorem Sorted.evictIdle_fst (h : Sorted inbox.streams) (now : Time) (timeout : Nat) :
    (inbox.evictIdle now timeout).1 = {key | (inbox.stream? key).isSome ∧
      (inbox.evictIdle now timeout).2.stream? key = none}.ncard := by
  have hdropped : {key | (inbox.stream? key).isSome ∧
      (inbox.evictIdle now timeout).2.stream? key = none} =
        (((inbox.streams.filter fun entry => entry.2.isIdle now timeout).map (·.1)).toFinset :
          Set StreamKey) := by
    ext key
    simp only [h.stream?_evictIdle, Set.mem_ofPred_eq, Option.isSome_iff_exists,
      stream?_eq_lookup, List.coe_toFinset, List.mem_map, List.mem_filter]
    constructor
    · rintro ⟨⟨stream, hstream⟩, hnone⟩
      refine ⟨(key, stream), ⟨h.lookup_eq_some_iff.mp hstream, ?_⟩, rfl⟩
      simpa [hstream] using hnone
    · rintro ⟨⟨other, stream⟩, ⟨hmem, hidle⟩, rfl⟩
      have hstream := h.lookup_eq_some_iff.mpr hmem
      refine ⟨⟨stream, hstream⟩, ?_⟩
      simpa [hstream] using hidle
  have hnodup : ((inbox.streams.filter fun entry => entry.2.isIdle now timeout).map (·.1)).Nodup :=
    (h.filter _).nodup
  rw [hdropped, Set.ncard_coe_finset, List.toFinset_card_of_nodup hnodup, List.length_map]
  have hsplit := List.length_eq_length_filter_add (l := inbox.streams)
    fun entry => entry.2.isIdle now timeout
  show inbox.streams.length - (inbox.streams.filter fun entry =>
    !entry.2.isIdle now timeout).length = _
  omega

end Evict

/-- What can be asked of an inbox. -/
inductive Action where
  | receive (key : StreamKey) (bytes : Bytes) (now : Time)
  | process
  | evictIdle (now : Time) (timeout : Nat)

def step (inbox : Inbox) : Action → Inbox
  | .receive key bytes now => inbox.receive key bytes now
  | .process => inbox.process.2
  | .evictIdle now timeout => (inbox.evictIdle now timeout).2

/-- A new inbox behind some actions. -/
def after (actions : List Action) : Inbox :=
  actions.foldl step {}

end Inbox

/-- A stream that stands alone, and the time when it last received anything. -/
structure LoneStream where
  stream : Stream
  latest : Time

namespace LoneStream
open Inbox

/-- The stream receives what has its key, is drained whenever the inbox is processed, and is given
up when an eviction comes `timeout` or more after its latest receipt. -/
def step (key : StreamKey) (lone : Option LoneStream) : Action → Option LoneStream
  | .receive other bytes now =>
    if other = key then some ⟨((lone.map stream).getD {}).receive bytes now, now⟩ else lone
  | .process => lone.map fun lone => { lone with stream := lone.stream.drain.2 }
  | .evictIdle now timeout => lone.filter fun lone => elapsed now lone.latest < timeout

/-- There is no stream until something is received. -/
def after (key : StreamKey) (actions : List Action) : Option LoneStream :=
  actions.foldl (step key) none

/-- The stream of the key in the inbox is the lone one. -/
structure Follows (key : StreamKey) (inbox : Inbox) (lone : Option LoneStream) : Prop where
  sorted : Sorted inbox.streams
  stream_eq : inbox.stream? key = lone.map stream
  latest_eq : ∀ alone ∈ lone, alone.stream.lastReceived = some alone.latest

section Follows
variable {key : StreamKey} {inbox : Inbox} {lone : Option LoneStream}

theorem follows_new (key : StreamKey) : Follows key {} none :=
  ⟨List.Pairwise.nil, rfl, by simp⟩

theorem Follows.receive (h : Follows key inbox lone) (other : StreamKey) (bytes : Bytes)
    (now : Time) :
    Follows key (inbox.receive other bytes now) (step key lone (.receive other bytes now)) where
  sorted := h.sorted.feed other bytes now
  stream_eq := by
    rw [stream?_eq_lookup, Inbox.receive, h.sorted.lookup_feed, ← stream?_eq_lookup,
      ← stream?_eq_lookup]
    by_cases hkey : other = key
    · simp [step, hkey, h.stream_eq]
    · simp [step, hkey, h.stream_eq]
  latest_eq alone halone := by
    by_cases hkey : other = key
    · simp only [step, hkey, if_true, Option.mem_some_iff] at halone
      simp [← halone, Stream.receive]
    · simp only [step, hkey, if_false] at halone
      exact h.latest_eq alone halone

theorem Follows.process (h : Follows key inbox lone) :
    Follows key inbox.process.2 (step key lone .process) where
  sorted := h.sorted.process
  stream_eq := by
    rw [stream?_eq_lookup, process_streams, lookup_map_drain, ← stream?_eq_lookup, h.stream_eq]
    simp [step, Function.comp_def]
  latest_eq alone halone := by
    obtain ⟨before, hbefore, rfl⟩ := Option.mem_map.mp halone
    exact h.latest_eq before hbefore

theorem Follows.evictIdle (h : Follows key inbox lone) (now : Time) (timeout : Nat) :
    Follows key (inbox.evictIdle now timeout).2 (step key lone (.evictIdle now timeout)) where
  sorted := h.sorted.filter _
  stream_eq := by
    rw [h.sorted.stream?_evictIdle, h.stream_eq]
    cases lone with
    | none => rfl
    | some alone =>
      have hlast := h.latest_eq alone rfl
      have hidle : (!alone.stream.isIdle now timeout) =
          decide (elapsed now alone.latest < timeout) := by
        rw [Stream.isIdle, hlast, ← decide_not, decide_eq_decide, Nat.not_le]
      by_cases hfresh : elapsed now alone.latest < timeout <;>
        simp [step, Option.filter_some, hidle, hfresh]
  latest_eq alone halone := h.latest_eq alone (Option.mem_filter_iff.mp halone).1

theorem Follows.step (h : Follows key inbox lone) (action : Action) :
    Follows key (inbox.step action) (LoneStream.step key lone action) := by
  cases action with
  | receive other bytes now => exact h.receive other bytes now
  | process => exact h.process
  | evictIdle now timeout => exact h.evictIdle now timeout

theorem follows_after (key : StreamKey) (actions : List Action) :
    Follows key (Inbox.after actions) (after key actions) := by
  unfold Inbox.after after
  generalize hinbox : ({} : Inbox) = inbox
  generalize hlone : (none : Option LoneStream) = lone
  have h : Follows key inbox lone := hinbox ▸ hlone ▸ follows_new key
  clear hinbox hlone
  induction actions generalizing inbox lone with
  | nil => exact h
  | cons first rest ih => exact ih _ _ (h.step first)

end Follows

/-- Behind any actions, each stream of the inbox has the backlog of a stream that stands alone and
gets only what has its key, and the inbox yields for the key what that stream yields. The batches
come in strictly ascending order of their keys, so there is at most one for each, and none is
empty. An eviction counts the streams that it drops. -/
theorem refined_by_inbox (actions : List Action) :
    let inbox := Inbox.after actions
    (∀ key, inbox.backlog? key = (after key actions).map (·.stream.backlog.length) ∧
      inbox.process.1.filter (·.key == key) =
        ((after key actions).bind fun lone => lone.stream.batch? key).toList) ∧
      inbox.process.1.Pairwise (fun first second => first.key.Before second.key) ∧
      (∀ batch ∈ inbox.process.1, batch.packets ≠ []) ∧
      ∀ now timeout, (inbox.evictIdle now timeout).1 = {key | (inbox.stream? key).isSome ∧
        (inbox.evictIdle now timeout).2.stream? key = none}.ncard := by
  intro inbox
  have hsorted : Sorted inbox.streams := (follows_after default actions).sorted
  refine ⟨fun key => ⟨?_, ?_⟩, hsorted.pairwise_process, fun _ => packets_ne_nil,
    hsorted.evictIdle_fst⟩
  · rw [backlog?, (follows_after key actions).stream_eq, Option.map_map]
    rfl
  · rw [hsorted.filter_process, (follows_after key actions).stream_eq, Option.bind_map]
    rfl

end LoneStream
end RouteDiscovery
