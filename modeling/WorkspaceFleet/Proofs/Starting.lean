import WorkspaceFleet.Proofs.Loading

/-!
# WorkspaceFleet.Proofs.Starting

The servers and clients that a start leaves.

A start takes in the configured servers, each with its client, and then gives a client to every
registered server that has none. Both are loops that stop at the first failure.
`Service.attended_of_loadFleet` says of the fleet of a start that comes to its end that exactly the
registered servers have a client, whatever was in the store and wherever the certificates are.
-/

namespace WorkspaceFleet

variable {κ χ α : Type}

/-- The work can come to this result. -/
def Work.Yields (w : Work α) (a : α) : Prop := ∃ s s' : Session, w.run.run s = (.ok a, s')

/-! ## Registered servers and their clients -/

/-- Exactly the registered servers have a client. -/
def Fleet.Attended (f : Fleet κ χ) : Prop :=
  ∀ id, f.pool.contains id = f.registry.servers.contains id

variable [Quantity κ]

/-- A call that gives out no hold. -/
theorem Registry.Sound.quiet {r : Registry κ} {issued : List (Reservation κ)} (h : r.Sound issued)
    (call : Registry.Call κ) (permitted : call.Permitted issued fun _ => True)
    (nothing : (call.change r).result = []) : (call.change r).registry.Sound issued := by
  have hsound := h.effect (change_effect permitted)
  rwa [nothing, List.append_nil] at hsound

namespace Service

variable {dataDir : String} {config : FleetConfig Float} {pool : ClientConfig}
  {ledger : Ledger Float} {files : Files} {fleet fleet' : Fleet Float Client}

theorem loaded_of_yields (loads : (loadFleet dataDir config ledger).Yields fleet) :
    ∃ files, loaded files config ledger = .ok fleet := by
  obtain ⟨s, s', hrun⟩ := loads
  have hcomes : Work.Comes s.disk.files (loadFleet dataDir config ledger) _ :=
    comes_loadFleet config ledger
  refine ⟨s.disk.files, ?_⟩
  rw [← (hcomes s rfl).1, hrun]

theorem sound_taken {c : ServerConfig Float} (range : c.InRange)
    (took : taken files pool fleet c = .ok fleet') (sound : fleet.registry.Sound []) :
    fleet'.registry.Sound [] := by
  rcases taken_cases took with rfl | ⟨-, client, rfl⟩
  · exact sound
  · exact sound.quiet (.addServer c) range rfl

/-- **A start that comes to its end** leaves a client with exactly the registered servers. -/
theorem attended_of_loadFleet (sound : ledger.registry.Sound [])
    (range : ∀ s ∈ config.servers, s.InRange)
    (loads : (loadFleet dataDir config ledger).Yields fleet) :
    fleet.registry.Sound [] ∧ fleet.Attended := by
  obtain ⟨files, hloaded⟩ := loaded_of_yields loads
  obtain ⟨f, hf, hfleet⟩ := loaded_eq_ok.1 hloaded
  have hsound : f.registry.Sound [] :=
    foldlM_keeps (P := fun f => f.registry.Sound [])
      (fun c hc _ _ => sound_taken (range c hc)) hf sound
  have hregistry : fleet.registry = f.registry :=
    congrArg Ledger.registry (ledger_of_attached hfleet)
  have horderly := orderly_of_taken sound.booked.keyed hf
  exact ⟨hregistry ▸ hsound, contains_of_attached horderly hfleet⟩

end Service
end WorkspaceFleet
