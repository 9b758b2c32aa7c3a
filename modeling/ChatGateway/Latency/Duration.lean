/-!
# Durations

A duration is a number of whole seconds below `2 ^ 64` and a number of nanoseconds below a second.
Sums carry from nanoseconds to seconds and fail when the seconds no longer fit (`sum?`);
division by a count drops what is less than a nanosecond (`divNat`). `toNanos` is the exact
length that both are measured against.
-/

namespace ChatGateway

/-- A length of time. -/
structure Duration where
  secs : Nat
  nanos : Nat
  secs_lt : secs < 0x10000000000000000
  nanos_lt : nanos < 1000000000
deriving DecidableEq, Repr

namespace Duration

/-- So many whole seconds. -/
def ofSecs (secs : Nat) (h : secs < 0x10000000000000000) : Duration := ⟨secs, 0, h, by decide⟩

def zero : Duration := ofSecs 0 (by decide)

def oneSecond : Duration := ofSecs 1 (by decide)

/-- The duration of so many seconds and nanoseconds, none if it does not fit. -/
def of? (secs nanos : Nat) : Option Duration :=
  let whole := secs + nanos / 1000000000
  if h : whole < 0x10000000000000000 then
    some ⟨whole, nanos % 1000000000, h, Nat.mod_lt _ (by decide)⟩
  else none

/-- The length in nanoseconds. -/
def toNanos (d : Duration) : Nat := d.secs * 1000000000 + d.nanos

/-- The length in milliseconds, the rest dropped. -/
def wholeMillis (d : Duration) : Nat := d.secs * 1000 + d.nanos / 1000000

instance : LT Duration := ⟨fun a b => a.secs < b.secs ∨ a.secs = b.secs ∧ a.nanos < b.nanos⟩

instance (a b : Duration) : Decidable (a < b) :=
  inferInstanceAs (Decidable (a.secs < b.secs ∨ a.secs = b.secs ∧ a.nanos < b.nanos))

theorem lt_iff_toNanos {a b : Duration} : a < b ↔ a.toNanos < b.toNanos := by
  have ha := a.nanos_lt
  have hb := b.nanos_lt
  show a.secs < b.secs ∨ a.secs = b.secs ∧ a.nanos < b.nanos ↔ _
  unfold toNanos
  omega

/-- The sum of two durations, none if its seconds do not fit. -/
def add? (a b : Duration) : Option Duration := of? (a.secs + b.secs) (a.nanos + b.nanos)

/-- The sum of durations, none if its seconds do not fit. -/
def sum? (ds : List Duration) : Option Duration := ds.foldlM add? zero

/-- What is left of a second when whole seconds are divided takes part in the nanoseconds. -/
theorem nanos_div_lt (d : Duration) {n : Nat} (h : 0 < n) :
    d.nanos / n + (d.secs % n * 1000000000 + d.nanos % n) / n < 1000000000 := by
  have hn := d.nanos_lt
  have hs : d.secs % n * 1000000000 + 1000000000 ≤ n * 1000000000 := by
    have := Nat.mul_le_mul_right 1000000000 (Nat.mod_lt d.secs h)
    rw [Nat.succ_mul] at this
    exact this
  have he : d.nanos / n + (d.secs % n * 1000000000 + d.nanos % n) / n
      = (d.secs % n * 1000000000 + d.nanos) / n := by
    have hd := Nat.mod_add_div d.nanos n
    rw [Nat.add_comm, ← Nat.add_mul_div_left _ _ h, Nat.add_assoc, hd]
  rw [he]
  exact Nat.div_lt_of_lt_mul (by omega)

/-- A duration divided by a count above zero: each part by itself, and what is left of the
seconds again as nanoseconds. -/
def divNat (d : Duration) (n : Nat) (h : 0 < n) : Duration where
  secs := d.secs / n
  nanos := d.nanos / n + (d.secs % n * 1000000000 + d.nanos % n) / n
  secs_lt := Nat.lt_of_le_of_lt (Nat.div_le_self _ _) d.secs_lt
  nanos_lt := nanos_div_lt d h

/-- The shorter of two durations, the first if they are equal. -/
def shorter (a b : Duration) : Duration := if b < a then b else a

/-- The longer of two durations, the second if they are equal. -/
def longer (a b : Duration) : Duration := if b < a then a else b

end Duration

end ChatGateway
