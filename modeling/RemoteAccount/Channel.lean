import RemoteAccount.Identifier

/-!
# Channels and accounts

A host knows its ends of channels by the application and the channel they are named for, and the
accounts that it has opened by the connection over which the controller is reached and the
application that controls. `Channels` and `Accounts` are the two tables; an entry takes the place of
an earlier one for the same pair.

The controller of an account is reached over the first connection of a channel
(`ChannelEnd.connection?`). A channel without connections leads nowhere.
-/

namespace RemoteAccount

/-- An end of a channel. -/
structure ChannelEnd where
  counterpartyPort : PortId
  counterpartyChannel : ChannelId
  /-- The connections the channel runs over, the nearest first. -/
  hops : List ConnectionId
  deriving DecidableEq

/-- The connection to which a channel is bound. -/
def ChannelEnd.connection? (channel : ChannelEnd) : Option ConnectionId :=
  channel.hops.head?

/-- The channel ends of a host, the latest entry first. -/
structure Channels where
  entries : List ((PortId × ChannelId) × ChannelEnd)

namespace Channels

def empty : Channels := ⟨[]⟩

/-- Enter a channel end, in the place of an earlier one of this name. -/
def insert (cs : Channels) (portId : PortId) (channel : ChannelId) (channelEnd : ChannelEnd) :
    Channels :=
  ⟨((portId, channel), channelEnd) :: cs.entries⟩

def find? (cs : Channels) (portId : PortId) (channel : ChannelId) : Option ChannelEnd :=
  cs.entries.lookup (portId, channel)

/-- The connection to which the channel of this name is bound. -/
def connection? (cs : Channels) (portId : PortId) (channel : ChannelId) : Option ConnectionId :=
  (cs.find? portId channel).bind ChannelEnd.connection?

end Channels

/-- The accounts that controllers own on a host, the latest entry first. -/
structure Accounts where
  entries : List ((ConnectionId × PortId) × String)

namespace Accounts

def empty : Accounts := ⟨[]⟩

/-- Enter the address of an account, in the place of an earlier one of this controller. -/
def insert (as : Accounts) (connection : ConnectionId) (portId : PortId) (address : String) :
    Accounts :=
  ⟨((connection, portId), address) :: as.entries⟩

def find? (as : Accounts) (connection : ConnectionId) (portId : PortId) : Option String :=
  as.entries.lookup (connection, portId)

end Accounts

end RemoteAccount
