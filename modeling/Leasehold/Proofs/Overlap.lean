import Leasehold.Proofs.Lease.Overlap
import Leasehold.Proofs.Session.Overlap
import Leasehold.Proofs.Session.Overtaking

/-!
# Overlapping renewals

Leases and tokens are renewed one at a time as long as nobody puts another one
in their place while a renewal is in flight.  The main statement says for the
leases under one identifier and for the token of a session when that fails
(`overlap_iff_interleaves`), and both do fail (`renewals_overlap`).
-/

set_option autoImplicit false

namespace Leasehold

open Container (twoMinutes)
open Session.Renewing (halfMinute minute loggedInAt0 loggedInAt61)

/-- Two renewals under one identifier, or two cycles of a session, are in flight at some place
exactly if one begins at some place while another is in flight whose lease is no longer the
registered one, or since whose beginning the login of a caller has put a token in place.  The cycles
of one lease never overlap. -/
theorem overlap_iff_interleaves (config : LeaseConfig) (leases : History Container.Event)
    (window : RenewalWindow) (session : History Session.Event)
    (leasesLive : History.Keeps Container.next (fun c _ e => c.StartsLiveTask e) (.new config)
      leases)
    (sessionLive : History.Keeps Session.Renewing.next (fun s _ e => s.StartsLiveTask e) { window }
      session) :
    (((∃ i ≤ leases.length, ((Container.new config).found leases i).Overlap) ↔
        ∃ i, (Container.new config).Interleaves leases i) ∧
      ∀ i n m d b, (n, d) ∈ ((Container.new config).found leases i).cycles.items →
        (m, b) ∈ ((Container.new config).found leases i).cycles.items →
        d.lease.serial = b.lease.serial → n = m) ∧
    ((∃ i ≤ session.length, (Session.Renewing.found { window } session i).Overlap) ↔
      ∃ i, Session.Renewing.Interleaves { window } session i) := by
  refine ⟨⟨Container.overlap_iff leasesLive, ?_⟩, Session.Renewing.overlap_iff sessionLive⟩
  intro i n m d b
  exact (Container.separate_found leasesLive i).cycles n d m b

def registeredAnew : History Container.Event :=
  [(⟨100000000000⟩, .register (twoMinutes "a" 100000000000)),
    (⟨160000000000⟩, .ring ⟨0, .ofSecs 60, .renewal ⟨0, twoMinutes "a" 100000000000⟩⟩),
    (⟨161000000000⟩, .register (twoMinutes "a" 91000000000)),
    (⟨161000000000⟩, .ring ⟨1, .zero, .renewal ⟨1, twoMinutes "a" 91000000000⟩⟩)]

theorem registeredAnew_live :
    History.Keeps Container.next (fun c _ e => c.StartsLiveTask e) (.new {}) registeredAnew :=
  ⟨trivial, ⟨_, rfl, rfl⟩, trivial, ⟨_, rfl, rfl⟩, trivial⟩

/-- The token expires while it is renewed, and that of the next login falls due. -/
def loggedInAnew : History Session.Event :=
  loggedInAt0 ++ (⟨30000000000⟩, .ring 0) :: loggedInAt61 ++ [(⟨91000000000⟩, .ring 1)]

theorem loggedInAnew_live :
    History.Keeps Session.Renewing.next (fun s _ e => s.StartsLiveTask e) { window := halfMinute }
      loggedInAnew :=
  ⟨trivial, trivial, rfl, trivial, trivial, rfl, trivial⟩

theorem overlap_iff_interleaves_anew :
    let c := Container.new {}
    let s : Session.Renewing := { window := halfMinute }
    (((∃ i ≤ 4, (c.found registeredAnew i).Overlap) ↔ ∃ i, c.Interleaves registeredAnew i) ∧
      ∀ i n m d b, (n, d) ∈ (c.found registeredAnew i).cycles.items →
        (m, b) ∈ (c.found registeredAnew i).cycles.items → d.lease.serial = b.lease.serial →
        n = m) ∧
    ((∃ i ≤ 6, (s.found loggedInAnew i).Overlap) ↔ ∃ i, s.Interleaves loggedInAnew i) :=
  overlap_iff_interleaves {} registeredAnew halfMinute loggedInAnew registeredAnew_live
    loggedInAnew_live

theorem renewals_overlap :
    (¬ ∀ (config : LeaseConfig) (h : History Container.Event),
      History.Keeps Container.next (fun c _ e => c.StartsLiveTask e) (.new config) h →
        ∀ i, ¬ ((Container.new config).found h i).Overlap) ∧
    ¬ ∀ (window : RenewalWindow) (h : History Session.Event),
      History.Keeps Session.Renewing.next (fun s _ e => s.StartsLiveTask e) { window } h →
        ∀ i, ¬ (Session.Renewing.found { window } h i).Overlap := by
  constructor
  · intro apart
    refine apart {} registeredAnew registeredAnew_live 4
      ⟨0, 1, ⟨0, twoMinutes "a" 100000000000⟩, ⟨1, twoMinutes "a" 91000000000⟩, by decide, ?_, ?_,
        rfl⟩
    · exact List.mem_cons_self
    · exact List.mem_cons_of_mem _ List.mem_cons_self
  · intro apart
    refine apart halfMinute loggedInAnew loggedInAnew_live 6
      ⟨0, 1, ⟨0, ⟨0, minute "first" 0⟩, .renewing⟩, ⟨0, ⟨1, minute "second" 61⟩, .renewing⟩,
        by decide, ?_, ?_⟩
    · exact List.mem_cons_self
    · exact List.mem_cons_of_mem _ List.mem_cons_self

end Leasehold
