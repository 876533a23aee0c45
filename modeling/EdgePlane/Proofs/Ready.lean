import EdgePlane.Proofs.Convergence

/-!
# Being ready along a run

The only thing that a pass asks of the cluster it finds is that each authority in it is whole. Passes
keep this, and so does whatever happens between them, so all along a run a pass that makes a control
plane ready has brought it about.
-/

namespace EdgePlane.Reconcile

open Kubernetes Simulation

variable {settings : Setup} {ns name : String} {t : List Event} {outcome : Outcome}

/-- An authority is stored by the router's part alone, and whole. -/
theorem holdsAuthority_of_stored (plays : (dispatch settings ns name).Plays t outcome) {e : Event}
    (he : e ∈ t) {ns' : String} {o : Object}
    (h : e.storedAt? ⟨.secret, ns', Router.authoritySecretName⟩ = some o) : o.HoldsAuthority settings.pem := by
  have notBookkept : ¬ e.call.isBookkeeping := fun bookkept => by
    rw [storedAt_of_bookkeeping bookkept] at h
    cases h
  rcases (visits_of_plays plays).idle_or_pass with idle | ⟨⟨p⟩⟩
  · exact absurd (idle e he).1 notBookkept
  have middle : e ∈ p.middle := by
    have bookkept := p.bookkept e
    rw [p.eq] at he
    simp only [List.mem_cons, List.mem_append] at he bookkept
    rcases he with rfl | (before | middle) | after
    · exact absurd rfl notBookkept
    · exact absurd (bookkept (.inl before)) notBookkept
    · exact middle
    · exact absurd (bookkept (.inr after)) notBookkept
  rcases p.parts.apart.mem_iff.1 middle with router | others
  · exact holdsAuthority_of_router p.parts.playsRouter router h
  · rw [p.parts.others_storedAt (show Router.authoritySecretName ∉ controllerNames by decide)
      (show Router.authoritySecretName ∉ portManagerNames by decide) e others] at h
    cases h

/-- Every happening keeps authorities whole. -/
theorem AuthoritiesWhole.happen {w : World} (h : AuthoritiesWhole settings.pem w) (happening : Happening) :
    AuthoritiesWhole settings.pem (w.happen settings happening) := by
  intro ns' o found
  cases happening with
  | pass ns name =>
    obtain ⟨admitted, final⟩ := w.objectAt_trace (dispatch settings ns name)
      ⟨.secret, ns', Router.authoritySecretName⟩
    exact Part.Admits.keeps (I := fun s => ∀ o, s = some o → o.HoldsAuthority settings.pem)
      (fun e he _ whole _ => holdsAuthority_after
        (fun _ stored => holdsAuthority_of_stored (w.plays_trace _) he stored) whole)
      (h ns') admitted o (final.symm.trans found)
  | declare cp => exact h ns' o found
  | assign ns name ip =>
    exact h ns' o ((World.object?_assignAddress w.cluster ns name ip (by simp)).symm.trans found)
  | serve url api => exact h ns' o found
  | plant faults => exact h ns' o found

/-- Along any run, a pass that makes a control plane ready has brought it about. -/
theorem converged_of_run (settings : Setup) {w : World} (whole : AuthoritiesWhole settings.pem w)
    (history : List Happening) {ns name : String}
    (ready : (w.after settings history).readies settings ns name) :
    ∃ cp target, (w.after settings history).cluster.controlPlane? ns name = some cp ∧
      Target.of cp = .ok target ∧
      Converged settings cp target (w.after settings history)
        ((w.after settings history).happen settings (.pass ns name)) :=
  converged_of_ready (World.after_keeps (fun happening _ _ h => h.happen happening) whole) ready

theorem authoritiesWhole_empty (pem : PemReader) : AuthoritiesWhole pem {} := by
  intro ns o found
  cases found

/-- A run in which the database moves out after a first pass. -/
def movedOut : List Happening :=
  [.declare (plainControlPlane "a@b.c" ⟨"b25l"⟩ {}), .pass "ns" "ecn",
    .declare (plainControlPlane "a@b.c" ⟨"b25l"⟩ { host := "db" })]

theorem converged_of_movedOut :
    AuthoritiesWhole .standard {} ∧
    (({} : World).after .standard movedOut).readies .standard "ns" "ecn" = true ∧
    ∃ cp target, (({} : World).after .standard movedOut).cluster.controlPlane? "ns" "ecn" = some cp ∧
      Target.of cp = .ok target ∧
      Converged .standard cp target (({} : World).after .standard movedOut)
        ((({} : World).after .standard movedOut).happen .standard (.pass "ns" "ecn")) := by
  have ready : (({} : World).after .standard movedOut).readies .standard "ns" "ecn" = true := by
    decide +kernel
  exact ⟨authoritiesWhole_empty _, ready,
    converged_of_run .standard (authoritiesWhole_empty _) movedOut ready⟩

/-- Nothing is ever deleted: the claim for the database file is still there when a control plane with a
database outside has become ready. -/
theorem not_only_declared : ¬ ∀ (history : List Happening) (cp : ControlPlane),
    (({} : World).after .standard history).readies .standard "ns" "ecn" →
    (({} : World).after .standard history).cluster.controlPlane? "ns" "ecn" = some cp →
    (((({} : World).after .standard history).happen .standard (.pass "ns" "ecn")).cluster.object?
      ⟨.volumeClaim, "ns", Controller.claimName⟩).isSome → cp.spec.database.isExternal = false := by
  intro h
  have ready : (({} : World).after .standard movedOut).readies .standard "ns" "ecn" = true := by
    decide +kernel
  have claimed : (((({} : World).after .standard movedOut).happen .standard
      (.pass "ns" "ecn")).cluster.object? ⟨.volumeClaim, "ns", Controller.claimName⟩).isSome := by
    decide +kernel
  exact absurd (h movedOut (plainControlPlane "a@b.c" ⟨"b25l"⟩ { host := "db" }) ready rfl claimed)
    (by decide)

end EdgePlane.Reconcile
