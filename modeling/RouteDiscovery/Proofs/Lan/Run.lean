import RouteDiscovery.Proofs.Lan.Delivery

/-!
Runs of a local network: the stations join, then they are polled in some order. Which station hears
which is settled when all have joined.
-/
namespace RouteDiscovery
open Wire

/-- What a station brings to a network. -/
structure Site where
  config : Config
  adapters : List Adapter
  listening : Bool := false

namespace Lan

/-- The network of some sites, none of them polled yet. -/
def build (sites : List Site) : Lan :=
  sites.foldl (fun lan site => lan.join site.config site.listening site.adapters) {}

/-- Polls stations one after the other, each at its time. -/
def run (polls : List (Nat × Time)) (lan : Lan) : Lan :=
  polls.foldl (fun lan poll => (lan.poll poll.1 poll.2).2) lan

/-- The identity is the number of station `i` with an address that it sends from. -/
def Names (lan : Lan) (i : Nat) (identity : NodeIdentity) : Prop :=
  ∃ station, lan.station? i = some station ∧ station.node.config.nodeId = identity.id ∧
    ∃ adapter, station.sources.lookup adapter = some identity.address

/-- What station `i` announces on its adapter `out` comes in on adapter `into` of station `j`. -/
def Hears (lan : Lan) (i : Nat) (out : AdapterId) (j : Nat) (into : AdapterId) : Prop :=
  ∃ sender receiver source port adapter, lan.station? i = some sender ∧
    sender.sources.lookup out = some source ∧ port ∈ lan.reached source (.multicast out) ∧
    port.station = j ∧ lan.station? j = some receiver ∧
    receiver.node.adapters.owner? source = none ∧
    receiver.node.adapters.owner? port.subnet.address = some adapter ∧ adapter.id = into

section Build
variable {lan : Lan} {i : Nat} {station : Station} {P P' : Nat → StreamKey → Packet → Prop}
  {Q Q' : Nat → AdapterId → Route → Prop}

theorem Upholds.mono (h : lan.Upholds P Q)
    (hpackets : ∀ i station key packet, lan.station? i = some station → P i key packet →
      P' i key packet)
    (hroutes : ∀ i id route, Q i id route → Q' i id route) : lan.Upholds P' Q' := by
  intro i station hstation
  obtain ⟨hcarries, hall, htimeout⟩ := h i station hstation
  exact ⟨hcarries.mono fun key packet => hpackets i station key packet hstation,
    hall.mono (hroutes i), htimeout⟩

theorem station?_push (added : Except Error Station) (lan : Lan) (j : Nat) :
    ({ lan with stations := lan.stations.push added } : Lan).station? j =
      if j = lan.stations.size then added.toOption else lan.station? j := by
  unfold station?
  rw [Array.getElem?_push]
  split <;> rfl

theorem exists_station_of_connect {j : Nat} {after : Station}
    (h : (lan.connect i).2.station? j = some after) :
    ∃ before, lan.station? j = some before ∧ after.node = before.node := by
  unfold connect at h
  cases hstation : lan.station? i with
  | none =>
    simp only [hstation] at h
    exact ⟨after, h, rfl⟩
  | some station =>
    simp only [hstation] at h
    split at h
    · exact ⟨after, h, rfl⟩
    · rw [show ∀ (changed : Lan) ports, ({ changed with ports } : Lan).station? j =
        changed.station? j from fun _ _ => rfl, station?_setStation] at h
      split at h
      · next hj =>
        cases h
        exact ⟨station, hj.1 ▸ hstation, rfl⟩
      · exact ⟨after, h, rfl⟩

/-- A station that joins has heard of nothing. -/
theorem Upholds.join (h : lan.Upholds P Q) (config : Config) (listening : Bool)
    (adapters : List Adapter) : (lan.join config listening adapters).Upholds P Q := by
  intro j after hafter
  unfold Lan.join at hafter
  cases hcreate : Node.create config with
  | error error =>
    simp only [hcreate] at hafter
    rw [station?_push] at hafter
    split at hafter
    · cases hafter
    · exact h j after hafter
  | ok node =>
    simp only [hcreate] at hafter
    obtain rfl := Node.eq_of_create hcreate
    unfold updateAdapters at hafter
    simp only [station?_push, if_true, Except.toOption] at hafter
    obtain ⟨before, hbefore, hnode⟩ := exists_station_of_connect hafter
    rw [hnode]
    rw [station?_setNode] at hbefore
    split at hbefore
    · simp only [station?_push, if_true, Except.toOption, Option.map_some,
        Option.some.injEq] at hbefore
      subst hbefore
      exact ⟨Inbox.carries_new, fun _ hbucket => absurd hbucket List.not_mem_nil, rfl⟩
    · next hj =>
      rw [station?_push, if_neg hj] at hbefore
      exact h j before hbefore

end Build

/-- What all stations have, read off where the network was built. -/
theorem getElem?_stations {lan : Lan} {i : Nat} {station : Station} {α : Type} (f : Station → α)
    (h : lan.station? i = some station) :
    (lan.stations.toList.map fun added => added.toOption.map f)[i]? = some (some (f station)) := by
  unfold station? at h
  rw [List.getElem?_map, Array.getElem?_toList]
  cases hadded : lan.stations[i]? with
  | none => simp [hadded] at h
  | some added =>
    have hok : added.toOption = some station := by simpa [hadded] using h
    rw [Option.map_some, hok, Option.map_some]

theorem Names.listed {lan : Lan} {i : Nat} {identity : NodeIdentity} (h : lan.Names i identity) :
    (lan.stations.toList.map fun added => added.toOption.map (·.node.config.nodeId))[i]? =
      some (some identity.id) := by
  obtain ⟨station, hstation, hid, -⟩ := h
  rw [← hid]
  exact getElem?_stations (·.node.config.nodeId) hstation

theorem sameWiring_run (polls : List (Nat × Time)) (lan : Lan) :
    lan.SameWiring (lan.run polls) := by
  induction polls generalizing lan with
  | nil => exact sameWiring_refl lan
  | cons first rest ih => exact (sameWiring_poll _ _ lan).trans (ih _)

end Lan
end RouteDiscovery
