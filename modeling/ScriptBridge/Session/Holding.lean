import ScriptBridge.Session.Basic

/-!
# What holds channels

A callback does not hold the channel it came through: once nothing else does, completing it fails.
A channel is held by its name in the session, by the context while it handles messages there, by a
bag that it is attached to, and by an intervention that will end its binding. A bag is held by its
name, by the channels that it is an instance of, and by the bags that have it among their values.

Things that hold each other stay, so what is held is the greatest set of channels and bags in which
each is held from outside or by another. `Held.settle` finds it from above: as long as something is
held by nothing that is left, it goes. With as many rounds as there are channels and bags nothing is
left to go.
-/

namespace ScriptBridge

open Catalogue (Stock Bag Intervention)

namespace Catalogue

/-- The channel whose binding an intervention ends. -/
def Intervention.channel? : Intervention → Option ChannelId
  | .reject => none
  | .unbind channel => some channel

namespace Bag

/-- The channels that a bag holds. -/
def channels (bag : Bag) : List ChannelId :=
  bag.attached.toList ++ (bag.onRead.bind Intervention.channel?).toList

/-- The objects among a bag's values, by identity. -/
def objects (bag : Bag) : List Nat :=
  (bag.table.entries.map (·.2) ++ bag.calls.flatten).flatMap Value.identities

end Bag

namespace Stock

/-- The bags, with their identities. -/
def bags (stock : Stock) : List (Nat × Bag) :=
  stock.objects.entries.filterMap fun (identity, object) =>
    match object with
    | .bag bag => some (identity, bag)
    | _ => none

end Stock

end Catalogue

/-- Channels and bags that may still be held. -/
structure Held where
  channels : List (ChannelId × Channel)
  bags : List (Nat × Bag)

namespace Held

variable (session : Session)

/-- All channels and bags, those channels aside of which it is known that nothing holds them. -/
def all : Held where
  channels := session.bridge.channels.entries.filter (·.2.held)
  bags := session.bridge.native.bags

/-- The channels held from outside, or by what may be held. -/
def holdsChannels (held : Held) : List ChannelId :=
  session.channels.entries.map (·.2.id)
    ++ (session.bridge.context.map fun context => context.handlers.entries.map (·.2)).getD []
    ++ (session.bridge.native.onInit.bind Intervention.channel?).toList
    ++ held.bags.flatMap (·.2.channels)

/-- The objects held from outside, or by what may be held. -/
def holdsObjects (held : Held) : List Nat :=
  session.objects.entries.map (·.2.identity)
    ++ (held.channels.filterMap (·.2.bound)).flatMap (fun bound =>
      bound.instances.entries.map (·.2.object.identity))
    ++ held.bags.flatMap (·.2.objects)

/-- Lets go of what nothing holds. -/
def narrow (held : Held) : Held :=
  let channels := held.holdsChannels session
  let objects := held.holdsObjects session
  { channels := held.channels.filter fun (id, _) => channels.contains id
    bags := held.bags.filter fun (identity, _) => objects.contains identity }

/-- Lets go in so many rounds. -/
def settle : Nat → Held → Held
  | 0, held => held
  | rounds + 1, held => settle rounds (held.narrow session)

end Held

/-- A session that knows which of its channels nothing holds any more. -/
def Session.release (session : Session) : Session :=
  let all := Held.all session
  let held := all.settle session (all.channels.length + all.bags.length)
  let channels := session.bridge.channels.entries.map fun (id, channel) =>
    (id, { channel with held := held.channels.any (·.1 = id) })
  { session with bridge := { session.bridge with channels := Table.ofList channels } }

end ScriptBridge
