import ChatGateway.Fault
import ChatGateway.InsertionMap
import ChatGateway.Latency.Duration

/-!
# Latency histories

For every provider the history keeps a window of the durations recorded last, oldest first. A
window holds at most `capacity` of them: a further one pushes out the oldest. A provider without
a window counts as one that takes a second, and so does one with more durations than can be divided
by their number. A window is made with all its room, so none can be made when the capacity is too
large, and then nothing is ever recorded. A further duration is put into a full window before the
oldest one is taken out, so the room of the window is doubled then, which has its limit as well.
-/

namespace ChatGateway

/-- The recorded durations of every provider. -/
structure LatencyHistory where
  capacity : Nat
  windows : InsertionMap (List Duration)
deriving DecidableEq, Repr

/-- What a window amounts to. -/
structure LatencyStats where
  average : Duration
  min : Duration
  max : Duration
  count : Nat
deriving DecidableEq, Repr

namespace LatencyHistory

/-- The capacity of a window when none is asked for. -/
def defaultCapacity : Nat := 100

/-- The largest capacity that a window can have: a duration takes 16 bytes, and there are fewer
than `2 ^ 63` bytes. -/
def largestCapacity : Nat := 0x7FFFFFFFFFFFFFF

/-- The largest capacity of which the double is still a capacity. -/
def largestDoubled : Nat := largestCapacity / 2

/-- What a provider without samples is taken to need. -/
def defaultLatency : Duration := .oneSecond

/-- An empty history; a capacity of zero stands for the default. -/
def ofCapacity (capacity : Nat) : LatencyHistory :=
  ⟨if capacity = 0 then defaultCapacity else capacity, []⟩

/-- The window of a provider, empty if nothing was recorded. -/
def window (h : LatencyHistory) (provider : String) : List Duration :=
  (h.windows.get? provider).getD []

/-- The durations without the oldest of them, as long as there are more than `capacity`. -/
def evict (capacity : Nat) : List Duration → List Duration
  | [] => []
  | d :: ds => if capacity < (d :: ds).length then evict capacity ds else d :: ds

/-- The history with one more duration in the window of a provider. -/
def push (h : LatencyHistory) (provider : String) (d : Duration) : LatencyHistory :=
  { h with windows := h.windows.put provider (evict h.capacity (h.window provider ++ [d])) }

/-- Whether a window can be made. -/
def ensureRoom (h : LatencyHistory) : Except Fault Unit :=
  if h.capacity ≤ largestCapacity then .ok () else .error .windowTooLarge

theorem ensureRoom_of_le {h : LatencyHistory} (hr : h.capacity ≤ largestCapacity) :
    h.ensureRoom = .ok () :=
  if_pos hr

theorem ensureRoom_of_lt {h : LatencyHistory} (hr : largestCapacity < h.capacity) :
    h.ensureRoom = .error .windowTooLarge :=
  if_neg (by omega)

/-- Whether one more duration fits the window of a provider until the oldest one is taken out. -/
def ensureSlot (h : LatencyHistory) (provider : String) : Except Fault Unit :=
  if (h.window provider).length < h.capacity ∨ h.capacity ≤ largestDoubled then .ok ()
  else .error .windowTooLarge

/-- The history with a duration of a provider recorded. -/
def record (h : LatencyHistory) (provider : String) (d : Duration) :
    Except Fault LatencyHistory := do
  h.ensureRoom
  h.ensureSlot provider
  return h.push provider d

/-- The history with every window forgotten. -/
def reset (h : LatencyHistory) : LatencyHistory := { h with windows := [] }

/-- The largest number by which a duration can be divided. -/
def largestDivisor : Nat := 0xFFFFFFFF

/-- The mean of a window, none if it is empty or too long. -/
def mean? (ds : List Duration) : Except Fault (Option Duration) :=
  if h : 0 < ds.length ∧ ds.length ≤ largestDivisor then
    match Duration.sum? ds with
    | some total => .ok (some (total.divNat ds.length h.1))
    | none => .error .durationOverflow
  else .ok none

/-- The mean duration of a provider. -/
def average (h : LatencyHistory) (provider : String) : Except Fault Duration :=
  (mean? (h.window provider)).map (·.getD defaultLatency)

/-- The duration recorded last. -/
def recent (h : LatencyHistory) (provider : String) : Option Duration :=
  (h.window provider).getLast?

/-- What a window without a mean amounts to. -/
def defaultStats : LatencyStats := ⟨defaultLatency, defaultLatency, defaultLatency, 0⟩

/-- Mean, extremes and length of a window. -/
def stats (h : LatencyHistory) (provider : String) : Except Fault LatencyStats :=
  match h.window provider with
  | [] => .ok defaultStats
  | d :: ds =>
    (mean? (d :: ds)).map fun
      | some average => ⟨average, ds.foldl .shorter d, ds.foldl .longer d, ds.length + 1⟩
      | none => defaultStats

/-- The providers with a sample, in the order of their names. -/
def providers (h : LatencyHistory) : List String :=
  ((h.windows.filter fun entry => !entry.2.isEmpty).map (·.1)).mergeSort fun a b => a ≤ b

/-- The number of samples of a provider. -/
def count (h : LatencyHistory) (provider : String) : Nat := (h.window provider).length

end LatencyHistory

end ChatGateway
