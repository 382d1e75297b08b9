import FailoverStorage.Proofs.Endpoint.Settled
import FailoverStorage.Proofs.Gateway.Isolation

/-!
# Requests that list their volumes in another order

Completing a request puts its volumes in order.  If no number occurs twice there is only one such
order, so requests that differ in the order of their volumes alone are completed to the same one
(`Endpoint.fillDefaults_eq_of_perm`).  A gateway completes a request before it looks at it
(`Gateway.create_congr`), so it cannot tell them apart, whatever its stores hold.
-/

namespace FailoverStorage

variable {p : Protocol}

/-! ## Creation -/

/-- **A gateway sees a request as it is when completed.** -/
lemma Gateway.create_congr {σ : Type} (g : Gateway σ) {d e : Endpoint p}
    (h : d.fillDefaults = e.fillDefaults) : g.create d = g.create e := by
  rw [Gateway.create, Gateway.create, h]

namespace Operation

/-- **Requests are compared up to the order of their volumes.**  Completing a request settles it for
good and keeps whether numbers are distinct.  If they are, the request is completed in the same way
in whatever order its volumes are listed, and a gateway on a cluster in any state answers it in the
same way and leaves the same state. -/
theorem create_reordered (p : Protocol) :
    (∀ e : Endpoint p, e.fillDefaults.fillDefaults = e.fillDefaults)
      ∧ (∀ e : Endpoint p, (e.fillDefaults.volumes.map (·.number)).Nodup
        ↔ (e.volumes.map (·.number)).Nodup)
      ∧ ∀ (e : Endpoint p) (volumes : List Volume), e.volumes.Perm volumes →
        (e.volumes.map (·.number)).Nodup →
        Endpoint.fillDefaults { e with volumes } = e.fillDefaults
          ∧ ∀ (w : Waiter) (c : Cluster),
            (gateway w).create { e with volumes } c = (gateway w).create e c := by
  refine ⟨Endpoint.fillDefaults_fillDefaults,
    fun e => (Endpoint.numbers_fillDefaults_perm e).nodup_iff, fun e volumes hperm hnodup => ?_⟩
  have hfill := e.fillDefaults_eq_of_perm hperm hnodup
  exact ⟨hfill, fun w c => congrFun ((gateway w).create_congr hfill) c⟩

/-! ## One subsystem -/

/-- A subsystem whose volumes are not in order. -/
def scatteredSubsystem : Endpoint .nvmeof :=
  { plainSubsystem with
    volumes := [{ number := 3, sizeKib := 4096 }, { number := 1, sizeKib := 1024 },
      { number := 2, sizeKib := 2048 }] }

/-- A cluster takes it for the same one if its volumes are listed the other way round. -/
theorem create_scatteredSubsystem :
    (scatteredSubsystem.volumes.map (·.number)).Nodup
      ∧ scatteredSubsystem.volumes ≠ scatteredSubsystem.volumes.reverse
      ∧ (gateway halfSecond).create
          { scatteredSubsystem with volumes := scatteredSubsystem.volumes.reverse } {}
        = (gateway halfSecond).create scatteredSubsystem {} := by
  have hnodup : (scatteredSubsystem.volumes.map (·.number)).Nodup := by decide
  obtain ⟨-, -, hsame⟩ := create_reordered .nvmeof
  exact ⟨hnodup, by decide,
    (hsame scatteredSubsystem _ (List.reverse_perm _).symm hnodup).2 halfSecond {}⟩

end Operation

end FailoverStorage
