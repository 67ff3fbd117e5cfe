import Leasehold.Proofs.Lease.Clock
import Leasehold.Proofs.Session.Clock

/-!
# Times to live and the range of the clock

What is added to an instant of issue comes from the server and from the settings,
so a session and a container are safe against all times to live up to a longest
one exactly if the sums for that one exist (`within_clock_iff`).  For the longest
time to live that the server can write down they do not.
-/

set_option autoImplicit false

namespace Leasehold

/-- A session needs no instant beyond the clock, whatever happens to it, exactly if the longest time
to live and the shortest interval between two renewals end within the clock when they are counted
from the horizon; a container exactly if the longest time to live does, and the interval too where
some path is managed.  Without a time to live that ends both are always safe. -/
theorem within_clock_iff (window : RenewalWindow) (config : LeaseConfig) (horizon : Instant)
    (most : Nat) :
    ((∀ h : History Session.Event, (∀ b ∈ h, b.2.Grants horizon most) →
        Session.Renewing.WithinClock { window } h) ↔
      (most ≠ 0 → horizon.nanos + (Duration.ofSecs most).nanos < Instant.limit ∧
        horizon.nanos + window.interval.nanos < Instant.limit)) ∧
    ((∀ h : History Container.Event, (∀ b ∈ h, b.2.Grants horizon most) →
        (Container.new config).RingsAreSet h →
        Container.WithinClock (Container.new config) h) ↔
      (most ≠ 0 → horizon.nanos + (Duration.ofSecs most).nanos < Instant.limit ∧
        ((∃ path, config.manages path = true) →
          horizon.nanos + config.window.interval.nanos < Instant.limit))) := by
  refine ⟨⟨fun within some => ?_, fun fits h grants => ?_⟩, ⟨fun within => ?_, fun fits h => ?_⟩⟩
  · exact Session.Renewing.fits_of_longestLogin some
      (within _ (Session.Renewing.grants_longestLogin horizon most))
  · exact Session.Renewing.within_of_grants fits grants
  · exact Container.fits_of_within within
  · exact fun grants set => Container.within_of_grants fits set grants

def farAhead : RenewalWindow := ⟨.ofSecs 1, .ofSecs 10000000000⟩

def firstLogin : Session.Renewing :=
  Session.Renewing.next { window := farAhead } ⟨1000000000⟩ (.begin .token)

def longestToken : Token := ⟨"token", ⟨1000000000⟩, .ofTtlSecs 9223372036854775807, true⟩

/-- A login succeeds, with a time to live of 64 bits, and no caller behind it gets an answer.  A
lease of that time to live is not even registered. -/
theorem overflows_behind_login :
    (firstLogin.step ⟨1000000000⟩ (.loginReply 0 (.ok longestToken))).result =
        .ok ⟨0, longestToken⟩ ∧
      ((firstLogin.next ⟨1000000000⟩ (.loginReply 0 (.ok longestToken))).step ⟨1000000000⟩
        (.begin .token)).result = (1, some (.answered (.error .overflow))) ∧
      ((Container.new { endpoints := some [] }).step ⟨1000000000⟩
        (.register (Container.longestLease "kv" ⟨1000000000⟩ 9223372036854775807))).result =
        .error .overflow ∧
      9223372036854775807 < UInt64.size := by
  refine ⟨rfl, rfl, rfl, by decide⟩

end Leasehold
