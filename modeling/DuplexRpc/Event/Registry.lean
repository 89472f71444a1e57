/-!
Listeners registered by the name of an event. Ids count the registrations, in one word: they come
round after `2 ^ 64` of them. The listeners are kept in the order of their registration. What a
listener is stays open: the registry only says who is to be called.
-/

namespace DuplexRpc

structure ListenerId where
  value : UInt64
  deriving DecidableEq, Repr

structure Listener (α : Type) where
  id : ListenerId
  event : String
  action : α
  deriving Repr

structure Registry (α : Type) where
  lastId : UInt64 := 0
  listeners : List (Listener α) := []
  deriving Repr

namespace Registry

variable {α : Type}

def on (r : Registry α) (event : String) (action : α) : ListenerId × Registry α :=
  let id : ListenerId := ⟨r.lastId + 1⟩
  (id, { lastId := r.lastId + 1, listeners := r.listeners ++ [⟨id, event, action⟩] })

def off (r : Registry α) (id : ListenerId) : Bool × Registry α :=
  (r.listeners.any (·.id = id),
    { r with listeners := r.listeners.filter (·.id ≠ id) })

/-- The listeners that an emission calls: those registered under the name when it begins. -/
def targets (r : Registry α) (event : String) : List (Listener α) :=
  r.listeners.filter (·.event = event)

def count (r : Registry α) (event : String) : Nat := (r.targets event).length

end Registry
end DuplexRpc
