/-!
# Durations

A duration is a whole number of nanoseconds. It is shown as whole seconds and the nanoseconds that
are left over.
-/

namespace EdgePlane

/-- A length of time. -/
structure Duration where
  nanoseconds : Nat
  deriving Repr, DecidableEq, Inhabited

namespace Duration

/-- No time. -/
def zero : Duration := ⟨0⟩

/-- That many seconds. -/
def ofSeconds (n : Nat) : Duration := ⟨n * 1000000000⟩

/-- That many thousandths of a second. -/
def ofMilliseconds (n : Nat) : Duration := ⟨n * 1000000⟩

/-- The whole seconds. -/
def seconds (d : Duration) : Nat := d.nanoseconds / 1000000000

/-- The nanoseconds beyond the whole seconds. -/
def subsecond (d : Duration) : Nat := d.nanoseconds % 1000000000

/-- The whole thousandths of a second. -/
def milliseconds (d : Duration) : Nat := d.nanoseconds / 1000000

/-- The longer of two durations. -/
def longer (d e : Duration) : Duration := ⟨max d.nanoseconds e.nanoseconds⟩

/-- The shorter of two durations. -/
def shorter (d e : Duration) : Duration := ⟨min d.nanoseconds e.nanoseconds⟩

/-- The duration rounded up to whole milliseconds. -/
def upToMillisecond (d : Duration) : Duration := ofMilliseconds ((d.nanoseconds + 999999) / 1000000)

instance : Add Duration := ⟨fun d e => ⟨d.nanoseconds + e.nanoseconds⟩⟩

instance : Sub Duration := ⟨fun d e => ⟨d.nanoseconds - e.nanoseconds⟩⟩

instance : LE Duration := ⟨fun d e => d.nanoseconds ≤ e.nanoseconds⟩

instance : LT Duration := ⟨fun d e => d.nanoseconds < e.nanoseconds⟩

instance (d e : Duration) : Decidable (d ≤ e) := inferInstanceAs (Decidable (d.nanoseconds ≤ e.nanoseconds))

instance (d e : Duration) : Decidable (d < e) := inferInstanceAs (Decidable (d.nanoseconds < e.nanoseconds))

theorem seconds_subsecond (d : Duration) :
    d.seconds * 1000000000 + d.subsecond = d.nanoseconds := by
  unfold seconds subsecond
  omega

@[simp] theorem seconds_ofSeconds (n : Nat) : (ofSeconds n).seconds = n := by
  simp [ofSeconds, seconds]

@[simp] theorem milliseconds_ofMilliseconds (n : Nat) : (ofMilliseconds n).milliseconds = n := by
  simp [ofMilliseconds, milliseconds]

end Duration

end EdgePlane
