/-!
# Durations

Lengths of time as whole seconds and nanoseconds of the last second, and their
computation from clock ticks.  Addition carries the nanoseconds over and fails when
the seconds do not fit in 64 bits; subtraction borrows a second for them and fails
when the result would be negative.
-/

namespace ProcessAccounting

def nanosPerSecond : Nat := 1000000000

structure Duration where
  seconds : UInt64
  /-- The nanoseconds of the last, unfinished second. -/
  nanos : UInt32
  nanos_lt : nanos.toNat < nanosPerSecond
deriving DecidableEq

namespace Duration

def totalNanos (d : Duration) : Nat := d.seconds.toNat * nanosPerSecond + d.nanos.toNat

instance : LT Duration := ⟨fun d e => d.totalNanos < e.totalNanos⟩

instance (d e : Duration) : Decidable (d < e) :=
  inferInstanceAs (Decidable (d.totalNanos < e.totalNanos))

def zero : Duration := ⟨0, 0, by decide⟩

def ofSeconds (seconds : UInt64) : Duration := ⟨seconds, 0, by decide⟩

/-- The nanoseconds of the last second, from any number of nanoseconds. -/
def subsecond (nanos : Nat) : UInt32 := .ofNat (nanos % nanosPerSecond)

theorem toNat_subsecond (nanos : Nat) : (subsecond nanos).toNat = nanos % nanosPerSecond := by
  have : nanos % nanosPerSecond < nanosPerSecond := Nat.mod_lt _ (by decide)
  rw [subsecond, UInt32.toNat_ofNat']
  unfold nanosPerSecond at *
  omega

theorem subsecond_lt (nanos : Nat) : (subsecond nanos).toNat < nanosPerSecond := by
  rw [toNat_subsecond]
  exact Nat.mod_lt _ (by decide)

/-- A number of nanoseconds. -/
def ofNanos (nanos : UInt64) : Duration :=
  ⟨.ofNat (nanos.toNat / nanosPerSecond), subsecond nanos.toNat, subsecond_lt _⟩

/-- The sum of two durations, if its seconds fit. -/
def add? (d e : Duration) : Option Duration :=
  let nanos := d.nanos.toNat + e.nanos.toNat
  let seconds := d.seconds.toNat + e.seconds.toNat + nanos / nanosPerSecond
  if seconds < UInt64.size then some ⟨.ofNat seconds, subsecond nanos, subsecond_lt _⟩
  else none

/-- What is left of a duration when another one is taken away, if that is not longer. -/
def sub? (d e : Duration) : Option Duration :=
  let nanos := nanosPerSecond + d.nanos.toNat - e.nanos.toNat
  let borrowed : UInt64 := if d.nanos < e.nanos then 1 else 0
  if d < e then none
  else some ⟨d.seconds - e.seconds - borrowed, subsecond nanos, subsecond_lt _⟩

/-- The time that `ticks` take at `rate` ticks per second: the whole seconds, plus
the remaining ticks in nanoseconds rounded down.  There is none at a rate of 0. -/
def ofTicks? (ticks rate : UInt64) : Option Duration :=
  let rest := (ticks % rate).toNat * nanosPerSecond / rate.toNat
  if rate = 0 then none else (ofSeconds (ticks / rate)).add? (ofNanos (.ofNat rest))

def millis (d : Duration) : Nat := d.seconds.toNat * 1000 + d.nanos.toNat / 1000000

def toFloat (d : Duration) : Float := d.seconds.toFloat + d.nanos.toFloat / 1000000000.0

end Duration

end ProcessAccounting
