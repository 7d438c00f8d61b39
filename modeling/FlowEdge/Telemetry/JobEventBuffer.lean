import FlowEdge.Protocol.JobEvents

/-!
# The event buffer

A bounded queue of lifecycle events between the coordinator and whoever drains it. An
event that does not fit is counted and dropped.
-/

namespace FlowEdge

inductive JobEventBufferResult where
  | success
  | invalid
  | full
  deriving DecidableEq

/-- Events in order, and how many did not fit. -/
structure JobEventBuffer where
  capacity : Nat
  events : List JobEventMessage := []
  dropped : UInt64 := 0
  deriving DecidableEq

namespace JobEventBuffer

/-- Append a valid event, if there is room. -/
def tryPush (buffer : JobEventBuffer) (event : JobEventMessage) :
    JobEventBuffer × JobEventBufferResult :=
  if event.validate ≠ .success then (buffer, .invalid)
  else if buffer.events.length = buffer.capacity then
    ({ buffer with dropped := buffer.dropped + 1 }, .full)
  else ({ buffer with events := buffer.events ++ [event] }, .success)

end JobEventBuffer

end FlowEdge
