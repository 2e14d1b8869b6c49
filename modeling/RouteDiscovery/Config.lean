import RouteDiscovery.Address
import RouteDiscovery.Text.Blank

/-!
The configuration of a node: its defaults, the values that the environment sets and the values
that a node can run with.
-/
namespace RouteDiscovery

/-- Durations are in milliseconds. -/
structure Config where
  nodeId : UInt16 := 0
  port : UInt16 := 7171
  group : Address := .ofOctets 239 255 71 71
  pollPeriod : Nat := 250
  discoveryInterval : Nat := 20000
  idleTimeout : Nat := 90000
  deriving DecidableEq, Inhabited

/-- The texts that the environment gives, where it gives any. -/
structure Environment where
  nodeId : Option String := none
  port : Option String := none
  group : Option String := none
  pollPeriod : Option String := none

inductive ConfigFault where
  | noPollPeriod
  | noDiscoveryInterval
  | notMulticast (group : Address)
  deriving DecidableEq

def ConfigFault.message : ConfigFault → String
  | noPollPeriod => "poll period must be non-zero"
  | noDiscoveryInterval => "discovery interval must be non-zero"
  | notMulticast group => s!"{group} is not a multicast group"

namespace Config

/-- A value of the environment, without blanks around it; what cannot be read counts as not set. -/
def setting {α : Type} (read : String → Option α) (default : α) (text : Option String) : α :=
  (text.bind fun text => read (Text.trim text)).getD default

def word16? (text : String) : Option UInt16 :=
  (Text.readNumber? 0xffff text).map Nat.toUInt16

def ofEnvironment (environment : Environment) : Config :=
  let base : Config := {}
  { base with
    nodeId := setting word16? base.nodeId environment.nodeId
    port := setting word16? base.port environment.port
    group := setting Address.parse? base.group environment.group
    pollPeriod := setting (Text.readNumber? 0xffffffffffffffff) base.pollPeriod
      environment.pollPeriod }

/-- The first reason why a node cannot run with the configuration. -/
def fault? (config : Config) : Option ConfigFault :=
  if config.pollPeriod = 0 then some .noPollPeriod
  else if config.discoveryInterval = 0 then some .noDiscoveryInterval
  else if !config.group.isMulticast then some (.notMulticast config.group)
  else none

end Config
end RouteDiscovery
