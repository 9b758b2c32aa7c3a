/-!
# Faults

What makes a request stop without an answer: an arithmetic that has no result, or a store that is
too large to be made.
-/

namespace ChatGateway

/-- Why a computation has no result. -/
inductive Fault where
  /-- A sum of durations beyond the largest duration. -/
  | durationOverflow
  /-- A window with room for more durations than can be stored. -/
  | windowTooLarge
  /-- A channel with room for more chunks than can be counted. -/
  | channelTooLarge
deriving DecidableEq, Repr

/-- The text of the fault. -/
def Fault.message : Fault → String
  | .durationOverflow => "overflow in iter::sum over durations"
  | .windowTooLarge => "capacity overflow"
  | .channelTooLarge =>
    "a semaphore may not have more than MAX_PERMITS permits (2305843009213693951)"

end ChatGateway
