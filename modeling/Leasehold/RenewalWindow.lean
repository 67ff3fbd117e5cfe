import Leasehold.Validity

/-!
# Renewal window

When a token or a lease is due for renewal: a margin before it expires, but not
sooner than the shortest interval that may pass between two renewals.
-/

set_option autoImplicit false

namespace Leasehold

/-- The shortest interval between two renewals, and how long before expiry a renewal is due. -/
structure RenewalWindow where
  interval : Duration
  margin : Duration
  deriving DecidableEq, Repr, Inhabited

/-- The least delay before the next cycle of a token or lease whose last cycle just ended. -/
def pauseBetweenCycles : Duration := .ofSecs 1

namespace RenewalWindow

/-- The instant of the next renewal, or nothing when the validity never ends.  Both bounds of the
window have to be instants that the clock can show. -/
def due (w : RenewalWindow) (renewedAt : Instant) (v : Validity) :
    Except InstantOverflow (Option Instant) :=
  match v with
  | .infinite => .ok none
  | .finite d => do
      let beforeExpiry ← renewedAt.plus (d.minus w.margin)
      let earliest ← renewedAt.plus w.interval
      return some (max beforeExpiry earliest)

def delay (w : RenewalWindow) (renewedAt : Instant) (v : Validity) (now : Instant) :
    Except InstantOverflow (Option Duration) :=
  (w.due renewedAt v).map (Option.map (·.since now))

theorem delay_eq_none_iff {w : RenewalWindow} {renewedAt now : Instant} {v : Validity}
    {delay : Option Duration} (planned : w.delay renewedAt v now = .ok delay) :
    delay = none ↔ v = .infinite := by
  unfold RenewalWindow.delay due at planned
  cases v with
  | infinite =>
      cases planned
      exact ⟨fun _ => rfl, fun _ => rfl⟩
  | finite d =>
      dsimp only at planned
      cases before : renewedAt.plus (d.minus w.margin) with
      | error beyond =>
          rw [before] at planned
          cases planned
      | ok beforeExpiry =>
          cases after : renewedAt.plus w.interval with
          | error beyond =>
              rw [before, after] at planned
              cases planned
          | ok earliest =>
              rw [before, after] at planned
              cases planned
              exact ⟨nofun, nofun⟩

def description (w : RenewalWindow) : String :=
  "RefreshTrigger \x7b min_renewal: " ++ w.interval.description ++ ", expiry_threshold: " ++
    w.margin.description ++ " \x7d"

end RenewalWindow

end Leasehold
