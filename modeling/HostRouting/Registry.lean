import HostRouting.Audited

/-!
# The registry of handlers

A server keeps one handler for each pair of sockets.  A candidate whose pair is known is dropped in
favour of the registered handler; any other candidate is registered behind the others.  Handlers
are never removed, so the position of a handler stands for it.

Two handlers that share one socket only are both kept, but this is probably a mistake, so it is
reported when the second one comes.
-/

namespace HostRouting

/-- The handlers of a server, in the order in which they were registered. -/
structure Registry where
  handlers : List Handler := []

namespace Registry

/-- What is reported about a candidate when it meets a handler that is not its own. -/
def collision (candidate handler : Handler) : List Event :=
  if handler.sameSend candidate then [.sharedSend candidate.sendSpec]
  else if handler.sameRecv candidate then [.sharedRecv candidate.recvSpec]
  else []

/-- Goes through handlers up to the one with both sockets of a candidate.  Returns it with its
position, if there is one, and what is reported about the handlers before. -/
def scan (candidate : Handler) : List Handler → List Event × Option (Handler × Nat)
  | [] => ([], none)
  | handler :: rest =>
      if handler.sameSend candidate && handler.sameRecv candidate then ([], some (handler, 0))
      else
        let (events, found) := scan candidate rest
        (collision candidate handler ++ events,
          found.map fun (registered, position) => (registered, position + 1))

/-- The registered handler with the sockets of a candidate, and its position.  The candidate
itself is registered if there is none yet. -/
def register (candidate : Handler) : Audited Registry (Handler × Nat) := fun registry =>
  match scan candidate registry.handlers with
  | (events, some found) => ⟨.ok found, registry, events⟩
  | (events, none) =>
      ⟨.ok (candidate, registry.handlers.length), ⟨registry.handlers ++ [candidate]⟩, events⟩

def find? (registry : Registry) (identity : String × String) : Option Nat :=
  registry.handlers.findIdx? fun handler => handler.identity == identity

def size (registry : Registry) : Nat :=
  registry.handlers.length

end Registry

end HostRouting
