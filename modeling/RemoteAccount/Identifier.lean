import RemoteAccount.Json.Form

/-!
# Identifiers

Applications, channels and connections are named by texts that this library never looks into. Each
kind of name is a type of its own, so that one cannot be taken for another, and each has the JSON
form of its text.
-/

namespace RemoteAccount

/-- The name under which an application of a chain sends and receives packets. -/
structure PortId where
  name : String
  deriving DecidableEq

/-- The name of a channel, at either of its ends. -/
structure ChannelId where
  name : String
  deriving DecidableEq

/-- The name of a connection between two chains. -/
structure ConnectionId where
  name : String
  deriving DecidableEq

instance : JsonForm PortId where
  toJson portId := JsonForm.toJson portId.name
  ofJson? json := (JsonForm.ofJson? json).map PortId.mk

instance : JsonForm ChannelId where
  toJson channel := JsonForm.toJson channel.name
  ofJson? json := (JsonForm.ofJson? json).map ChannelId.mk

instance : JsonForm ConnectionId where
  toJson connection := JsonForm.toJson connection.name
  ofJson? json := (JsonForm.ofJson? json).map ConnectionId.mk

end RemoteAccount
