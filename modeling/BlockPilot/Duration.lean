/-!
# Durations

A delay may have any number of nanoseconds. Settings and answers count whole milliseconds, and so
does a number that stands where a duration is expected.
-/

namespace BlockPilot

structure Duration where
  nanoseconds : Nat
  deriving DecidableEq

namespace Duration

def ofMillis (n : Nat) : Duration := ⟨n * 1000000⟩

instance : Coe Nat Duration := ⟨ofMillis⟩

instance (n : Nat) : OfNat Duration n := ⟨ofMillis n⟩

instance : Add Duration := ⟨fun a b => ⟨a.nanoseconds + b.nanoseconds⟩⟩

instance : LE Duration := ⟨fun a b => a.nanoseconds ≤ b.nanoseconds⟩

instance (a b : Duration) : Decidable (a ≤ b) := inferInstanceAs (Decidable (a.nanoseconds ≤ b.nanoseconds))

theorem le_iff {a b : Duration} : a ≤ b ↔ a.nanoseconds ≤ b.nanoseconds := Iff.rfl

@[simp] theorem nanoseconds_add (a b : Duration) : (a + b).nanoseconds = a.nanoseconds + b.nanoseconds := rfl

/-- The whole milliseconds of a duration. -/
def millis (d : Duration) : Nat := d.nanoseconds / 1000000

end Duration

end BlockPilot
