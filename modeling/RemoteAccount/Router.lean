import Std.Data.ExtTreeMap
import RemoteAccount.Bank

/-!
# Routers

A router says which handler carries out the messages of a type URL. It is a table of its own, apart
from the registry of the kinds that can be unpacked: a message may be known and have no route, and a
route may lead to a handler that was made for messages of another kind.
-/

namespace RemoteAccount

/-- The handlers of a host, by type URL. -/
structure Router (M : Type := Message) where
  table : Std.ExtTreeMap String (Handler M)

namespace Router

variable {M : Type}

def empty : Router M := ⟨∅⟩

/-- The router with a route to this handler, in the place of an earlier one for the type URL. -/
def insert (r : Router M) (typeUrl : String) (handler : Handler M) : Router M :=
  ⟨r.table.insert typeUrl handler⟩

def find? (r : Router M) (typeUrl : String) : Option (Handler M) :=
  r.table[typeUrl]?

def contains (r : Router M) (typeUrl : String) : Bool :=
  r.table.contains typeUrl

def typeUrls (r : Router M) : List String :=
  r.table.keys

theorem find?_insert (router : Router M) (typeUrl : String) (handler : Handler M) (url : String) :
    (router.insert typeUrl handler).find? url =
      if typeUrl = url then some handler else router.find? url := by
  simp [find?, insert, Std.ExtTreeMap.getElem?_insert]

theorem contains_eq_isSome (router : Router M) (typeUrl : String) :
    router.contains typeUrl = (router.find? typeUrl).isSome :=
  Std.ExtTreeMap.isSome_getElem?_eq_contains.symm

/-- The router with the route of transfers to the bank. -/
def withBank [ChainMessage M] (r : Router M) : Router M :=
  r.insert Message.Kind.send.typeUrl (Handler.only ChainMessage.transfer? Bank.send)

end Router

end RemoteAccount
