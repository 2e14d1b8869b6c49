import Mathlib.Algebra.Order.Ring.Int
import Mathlib.Data.List.Chain
import Mathlib.Data.List.Induction
import RouteDiscovery.Discovery.Schedule

/-!
Ticks of a schedule, whatever its link and its clock do. What a tick hands over does not depend on
what the link refuses. Rounds are at least an interval apart, however the clock is set; a jump of
the clock makes up for no round that was missed, and one that is set back only waits.
-/
namespace RouteDiscovery

/-- A datagram that was handed to a link, and what the link answered. -/
structure Handover where
  datagram : Datagram
  answer : Except LinkError Nat

def Handover.isTaken (handover : Handover) : Bool :=
  handover.answer.isOk

namespace Link
variable {σ : Type}

/-- The link with a record of all that it is handed and of its answers. -/
def audited (link : Link σ) : Link (σ × List Handover) where
  send datagram state :=
    let (answer, next) := link.send datagram state.1
    (answer, next, state.2 ++ [⟨datagram, answer⟩])

/-- The answers to some datagrams, one handed over behind the other. -/
def handovers (link : Link σ) : List Datagram → σ → List Handover
  | [], _ => []
  | datagram :: rest, state =>
    ⟨datagram, (link.send datagram state).1⟩ :: link.handovers rest (link.send datagram state).2

/-- Whatever a link refuses, it is handed all that there is. -/
theorem datagrams_handovers (link : Link σ) (datagrams : List Datagram) (state : σ) :
    (link.handovers datagrams state).map (·.datagram) = datagrams := by
  induction datagrams generalizing state with
  | nil => rfl
  | cons datagram rest ih => rw [handovers, List.map_cons, ih]

/-- The record does not change what the link does. -/
theorem transmit_audited (link : Link σ) (datagrams : List Datagram) (state : σ)
    (record : List Handover) :
    link.audited.transmit datagrams (state, record) =
      ((link.transmit datagrams state).1, (link.transmit datagrams state).2,
        record ++ link.handovers datagrams state) := by
  unfold transmit
  generalize 0 = count
  induction datagrams generalizing count state record with
  | nil => simp [handovers]
  | cons datagram rest ih =>
    have hsend : link.audited.send datagram (state, record) = ((link.send datagram state).1,
      (link.send datagram state).2, record ++ [⟨datagram, (link.send datagram state).1⟩]) := rfl
    simp only [List.foldl_cons, hsend, handovers]
    rcases link.send datagram state with ⟨fault | taken, next⟩
    · simp only [ih, List.append_assoc, List.singleton_append]
    · simp only [ih, List.append_assoc, List.singleton_append]

/-- What is counted are the datagrams that the link took. -/
theorem transmit_fst (link : Link σ) (datagrams : List Datagram) (state : σ) :
    (link.transmit datagrams state).1 =
      (link.handovers datagrams state).countP Handover.isTaken := by
  rw [transmit, ← Nat.zero_add (List.countP _ _)]
  generalize 0 = count
  induction datagrams generalizing count state with
  | nil => rfl
  | cons datagram rest ih =>
    rcases hsend : link.send datagram state with ⟨fault | taken, next⟩
    · have hrefused : ¬ Handover.isTaken ⟨datagram, .error fault⟩ = true := Bool.false_ne_true
      simp only [List.foldl_cons, handovers, hsend, ih, List.countP_cons_of_neg hrefused]
    · have htaken : Handover.isTaken ⟨datagram, .ok taken⟩ = true := rfl
      simp only [List.foldl_cons, handovers, hsend, ih, List.countP_cons_of_pos htaken]
      omega

end Link

namespace Schedule
variable {σ τ : Type} {link : Link σ} {schedule : Schedule} {now : Time} {sender : UInt16}
  {routes : RouteTable} {adapters : AdapterTable}

theorem plan_eq (schedule : Schedule) (now : Time) (sender : UInt16) (routes : RouteTable)
    (adapters : AdapterTable) : schedule.plan now sender routes adapters =
      (if schedule.isDue now then round sender routes adapters else [],
        if schedule.isDue now then { schedule with last := some now, rounds := schedule.rounds + 1 }
        else schedule) := by
  rw [plan]
  split <;> rfl

theorem tick_audited (schedule : Schedule) (now : Time) (sender : UInt16) (routes : RouteTable)
    (adapters : AdapterTable) (link : Link σ) (state : σ) :
    schedule.tick link.audited now sender routes adapters (state, []) =
      ((schedule.tick link now sender routes adapters state).1,
        (schedule.tick link now sender routes adapters state).2.1,
        (schedule.tick link now sender routes adapters state).2.2,
        link.handovers (schedule.plan now sender routes adapters).1 state) := by
  simp only [tick, Link.transmit_audited, List.nil_append]

/-- On any two links a tick hands over the same datagrams in the same order and leaves the same
schedule, whatever either refuses: the datagrams of a round if one is due, and none otherwise. It
counts those that its own link took, and the record does not change what it does. -/
theorem tick_alike (schedule : Schedule) (now : Time) (sender : UInt16) (routes : RouteTable)
    (adapters : AdapterTable) (first : Link σ) (second : Link τ) (state : σ) (other : τ) :
    let left := schedule.tick first.audited now sender routes adapters (state, [])
    let right := schedule.tick second.audited now sender routes adapters (other, [])
    left.2.2.2.map (·.datagram) = right.2.2.2.map (·.datagram) ∧
      left.2.1 = right.2.1 ∧
      left.1 = left.2.2.2.countP Handover.isTaken ∧
      right.1 = right.2.2.2.countP Handover.isTaken ∧
      schedule.tick first now sender routes adapters state = (left.1, left.2.1, left.2.2.1) ∧
      schedule.tick second now sender routes adapters other =
        (right.1, right.2.1, right.2.2.1) ∧
      left.2.2.2.map (·.datagram) =
        (if schedule.isDue now then round sender routes adapters else []) ∧
      left.2.1 =
        if schedule.isDue now then { schedule with last := some now, rounds := schedule.rounds + 1 }
        else schedule := by
  intro left right
  have hleft := tick_audited schedule now sender routes adapters first state
  have hright := tick_audited schedule now sender routes adapters second other
  have hplan := plan_eq schedule now sender routes adapters
  simp only [left, right, hleft, hright, Link.datagrams_handovers]
  exact ⟨trivial, rfl, first.transmit_fst _ state, second.transmit_fst _ other, trivial, trivial,
    congrArg Prod.fst hplan, congrArg Prod.snd hplan⟩

theorem isDue_iff (hinterval : 0 < schedule.interval) :
    schedule.isDue now = true ↔ ∀ latest ∈ schedule.last, schedule.interval ≤ now - latest := by
  unfold isDue elapsed
  cases schedule.last with
  | none => simp
  | some latest =>
    have hless : ¬ (now - latest).toNat < schedule.interval ↔ ¬ now - latest < schedule.interval :=
      not_congr (Int.toNat_lt' hinterval)
    simpa only [Nat.not_lt, Int.not_lt, decide_eq_true_eq, Option.mem_def, Option.some.injEq,
      forall_eq'] using hless

theorem tick_of_isDue (link : Link σ) (hdue : schedule.isDue now = true) (state : σ) :
    schedule.tick link now sender routes adapters state =
      ((link.transmit (round sender routes adapters) state).1,
        { schedule with last := some now, rounds := schedule.rounds + 1 },
        (link.transmit (round sender routes adapters) state).2) := by
  simp only [tick, plan, if_pos hdue]

theorem tick_of_not_isDue (link : Link σ) (hdue : ¬ schedule.isDue now = true) (state : σ) :
    schedule.tick link now sender routes adapters state = (0, schedule, state) := by
  simp only [tick, plan, if_neg hdue]
  rfl

section Pace

/-- A tick at some time, with what there is to tell then. -/
structure Tick where
  now : Time
  sender : UInt16
  routes : RouteTable
  adapters : AdapterTable

/-- The schedule and the link behind one more tick. -/
def pass (link : Link σ) (reached : Schedule × σ) (tick : Tick) : Schedule × σ :=
  (reached.1.tick link tick.now tick.sender tick.routes tick.adapters reached.2).2

/-- The schedule and the link behind some ticks. -/
def afterTicks (link : Link σ) (ticks : List Tick) (schedule : Schedule) (state : σ) :
    Schedule × σ :=
  ticks.foldl (pass link) (schedule, state)

/-- The times of the rounds behind a latest one: of each tick that comes an interval later, or more,
than the round before it. -/
def roundsBehind (interval : Nat) (latest : Time) : List Time → List Time
  | [] => []
  | now :: rest =>
    if interval ≤ now - latest then now :: roundsBehind interval now rest
    else roundsBehind interval latest rest

/-- The times of the rounds among those of the ticks. The first tick makes a round. -/
def roundTimes (interval : Nat) : List Time → List Time
  | [] => []
  | first :: rest => first :: roundsBehind interval first rest

variable {interval : Nat} {times rounds : List Time}

theorem roundsBehind_append_singleton (interval : Nat) (latest : Time) (times : List Time)
    (now : Time) : roundsBehind interval latest (times ++ [now]) =
      if interval ≤ now - (roundsBehind interval latest times).getLastD latest then
        roundsBehind interval latest times ++ [now]
      else roundsBehind interval latest times := by
  induction times generalizing latest with
  | nil => rfl
  | cons first rest ih =>
    by_cases hfirst : interval ≤ first - latest
    · simp only [List.cons_append, roundsBehind, if_pos hfirst, ih, List.getLastD_cons]
      split_ifs <;> rfl
    · simp only [List.cons_append, roundsBehind, if_neg hfirst, ih]

theorem roundTimes_append_singleton (interval : Nat) (times : List Time) (now : Time) :
    roundTimes interval (times ++ [now]) =
      if ∀ latest ∈ (roundTimes interval times).getLast?, interval ≤ now - latest then
        roundTimes interval times ++ [now]
      else roundTimes interval times := by
  cases times with
  | nil => simp [roundTimes, roundsBehind]
  | cons first rest =>
    simp only [List.cons_append, roundTimes, roundsBehind_append_singleton, List.getLast?_cons,
      List.getLastD_eq_getLast?, Option.mem_def, Option.some.injEq, forall_eq']
    split_ifs <;> rfl

/-- A round is an interval later than the one before it, or more. -/
theorem isChain_roundTimes (interval : Nat) (times : List Time) :
    (roundTimes interval times).IsChain fun earlier later : Time => interval ≤ later - earlier := by
  induction times using List.reverseRecOn with
  | nil => exact .nil
  | append_singleton times now ih =>
    rw [roundTimes_append_singleton]
    split_ifs with hlater
    · rw [List.isChain_append]
      refine ⟨ih, .singleton now, fun latest hlatest later hnow => ?_⟩
      cases hnow
      exact hlater latest hlatest
    · exact ih

theorem mul_length_le_of_isChain {first : Time} {rest : List Time}
    (h : (first :: rest).IsChain fun earlier later : Time => interval ≤ later - earlier) :
    interval * rest.length ≤ rest.getLastD first - first := by
  induction rest generalizing first with
  | nil => simp
  | cons second rest ih =>
    obtain ⟨hsecond, hrest⟩ := List.isChain_cons_cons.mp h
    have hlast := ih hrest
    rw [List.getLastD_cons, List.length_cons, Nat.cast_succ, mul_add, mul_one]
    exact le_trans (add_le_add hlast hsecond) (le_of_eq (sub_add_sub_cancel _ _ _))

/-- Times that are an interval apart are no more than fit between the first and the last. -/
theorem length_le_of_isChain (hinterval : 0 < interval)
    (h : rounds.IsChain fun earlier later : Time => interval ≤ later - earlier)
    {first latest : Time} (hfirst : first ∈ rounds.head?) (hlatest : latest ∈ rounds.getLast?) :
    rounds.length ≤ 1 + (latest - first) / interval := by
  cases rounds with
  | nil => cases hfirst
  | cons head rest =>
    cases hfirst
    rw [List.getLast?_cons, ← List.getLastD_eq_getLast?] at hlatest
    cases hlatest
    have hfit := mul_length_le_of_isChain h
    have hdiv : (rest.length : Int) ≤ (rest.getLastD first - first) / interval :=
      (Int.le_ediv_iff_mul_le (Int.natCast_pos.mpr hinterval)).mpr (by rwa [mul_comm])
    rw [List.length_cons, Nat.cast_succ, add_comm]
    exact add_le_add_right hdiv 1

/-- A schedule that has not run yet keeps the time of the latest round and the number of rounds. -/
theorem afterTicks_fst (hinterval : 0 < interval) (link : Link σ) (ticks : List Tick) (state : σ) :
    (afterTicks link ticks { interval } state).1 =
      { interval
        last := (roundTimes interval (ticks.map (·.now))).getLast?
        rounds := (roundTimes interval (ticks.map (·.now))).length } := by
  -- from the last tick backwards, since it is due by what the ticks before it left
  induction ticks using List.reverseRecOn with
  | nil => rfl
  | append_singleton ticks tick ih =>
    have hpass : afterTicks link (ticks ++ [tick]) { interval } state =
        pass link (afterTicks link ticks { interval } state) tick := List.foldl_append
    rw [hpass, List.map_append, List.map_cons, List.map_nil, roundTimes_append_singleton]
    generalize afterTicks link ticks { interval } state = reached at ih
    generalize roundTimes interval (ticks.map (·.now)) = rounds at ih
    have hdue : reached.1.isDue tick.now = true ↔
        ∀ latest ∈ rounds.getLast?, interval ≤ tick.now - latest := by
      rw [ih]
      exact isDue_iff hinterval
    by_cases hlater : ∀ latest ∈ rounds.getLast?, interval ≤ tick.now - latest
    · rw [if_pos hlater, pass, tick_of_isDue link (hdue.mpr hlater), ih, List.getLast?_append,
        List.length_append]
      rfl
    · rw [if_neg hlater, pass, tick_of_not_isDue link (mt hdue.mp hlater), ih]

/-- However its clock is set, a schedule runs a round at the first tick and at each one that comes
an interval, or more, behind the latest round. It keeps the time of that round, which never goes
back, and the number of rounds, which is no greater than the time between the first and the latest
one allows. Between rounds a tick sends nothing and changes nothing. -/
theorem rounds_keep_pace (hinterval : 0 < interval) (link : Link σ) (ticks : List Tick)
    (state : σ) :
    let reached := afterTicks link ticks { interval } state
    let rounds := roundTimes interval (ticks.map (·.now))
    reached.1 = { interval, last := rounds.getLast?, rounds := rounds.length } ∧
      (rounds.IsChain fun earlier later : Time => interval ≤ later - earlier) ∧
      (∀ first ∈ rounds.head?, ∀ latest ∈ rounds.getLast?,
        rounds.length ≤ 1 + (latest - first) / interval) ∧
      ∀ tick : Tick,
        let isRound := ∀ latest ∈ rounds.getLast?, interval ≤ tick.now - latest
        let next := reached.1.tick link tick.now tick.sender tick.routes tick.adapters reached.2
        let sent := link.transmit (round tick.sender tick.routes tick.adapters) reached.2
        (isRound → roundTimes interval ((ticks ++ [tick]).map (·.now)) = rounds ++ [tick.now] ∧
          next = (sent.1, { interval, last := some tick.now, rounds := rounds.length + 1 },
            sent.2)) ∧
        (¬ isRound → roundTimes interval ((ticks ++ [tick]).map (·.now)) = rounds ∧
          next = (0, reached.1, reached.2)) ∧
        ∀ latest ∈ reached.1.last, ∃ later ∈ next.2.1.last, latest ≤ later := by
  intro reached rounds
  have hreached : reached.1 = { interval, last := rounds.getLast?, rounds := rounds.length } :=
    afterTicks_fst hinterval link ticks state
  have hchain := isChain_roundTimes interval (ticks.map (·.now))
  refine ⟨hreached, hchain, fun first hfirst latest hlatest =>
    length_le_of_isChain hinterval hchain hfirst hlatest, fun tick => ?_⟩
  intro isRound next sent
  have hdue : reached.1.isDue tick.now = true ↔ isRound := by
    rw [hreached]
    exact isDue_iff hinterval
  have htimes : roundTimes interval ((ticks ++ [tick]).map (·.now)) =
      if isRound then rounds ++ [tick.now] else rounds := by
    rw [List.map_append]
    exact roundTimes_append_singleton interval _ tick.now
  have hround : isRound → next =
      (sent.1, { interval, last := some tick.now, rounds := rounds.length + 1 }, sent.2) := by
    intro hlater
    rw [show next = _ from tick_of_isDue link (hdue.mpr hlater) reached.2, hreached]
  have hwait : ¬ isRound → next = (0, reached.1, reached.2) := fun hlater =>
    tick_of_not_isDue link (mt hdue.mp hlater) reached.2
  refine ⟨fun hlater => ⟨htimes.trans (if_pos hlater), hround hlater⟩,
    fun hlater => ⟨htimes.trans (if_neg hlater), hwait hlater⟩, fun latest hlatest => ?_⟩
  by_cases hlater : isRound
  · rw [hround hlater]
    refine ⟨tick.now, rfl, ?_⟩
    rw [hreached] at hlatest
    have hgap : 0 ≤ tick.now - latest :=
      le_trans (Int.natCast_nonneg interval) (hlater latest hlatest)
    exact sub_nonneg.mp hgap
  · rw [hwait hlater]
    exact ⟨latest, hlatest, le_refl latest⟩

/-- The clock is set back, comes to a millisecond before the second round and to that round, jumps
over many intervals and is set back again. The next tick comes too early. -/
theorem rounds_keep_pace_jumping :
    let adapters := AdapterTable.ofList
      [{ id := ⟨"e0"⟩, name := "e0", addresses := [⟨⟨0x0a000001⟩, ⟨0xffffff00⟩⟩] }]
    let tick (now : Time) : Tick := ⟨now, 1, {}, adapters⟩
    let ticks := [100, 50, 20099, 20100, 620100, 600000].map tick
    let reached := afterTicks (Link.recording []) ticks { interval := 20000 } #[]
    let rounds := roundTimes 20000 (ticks.map (·.now))
    (0 < 20000 ∧ rounds = [100, 20100, 620100] ∧ reached.2.size = 3) ∧
      reached.1 = { interval := 20000, last := rounds.getLast?, rounds := rounds.length } ∧
      (rounds.IsChain fun earlier later : Time => 20000 ≤ later - earlier) ∧
      (∀ first ∈ rounds.head?, ∀ latest ∈ rounds.getLast?,
        rounds.length ≤ 1 + (latest - first) / 20000) ∧
      reached.1.tick (Link.recording []) 640099 1 {} adapters reached.2 =
        (0, reached.1, reached.2) := by
  intro adapters tick ticks reached rounds
  have hrounds : rounds = [100, 20100, 620100] := by decide
  have hsent : reached.2.size = 3 := by decide +kernel
  have hearly : ¬ ∀ latest ∈ rounds.getLast?, ((20000 : Nat) : Int) ≤ 640099 - latest := by
    rw [hrounds]
    decide
  obtain ⟨hreached, hchain, hlength, hnext⟩ :=
    rounds_keep_pace (by decide : 0 < 20000) (Link.recording []) ticks #[]
  obtain ⟨-, hwait, -⟩ := hnext (tick 640099)
  exact ⟨⟨by decide, hrounds, hsent⟩, hreached, hchain, hlength, (hwait hearly).2⟩

end Pace

end Schedule
end RouteDiscovery
