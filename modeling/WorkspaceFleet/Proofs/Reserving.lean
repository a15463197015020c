import WorkspaceFleet.Proofs.Choosing
import WorkspaceFleet.Proofs.Placing

/-!
# WorkspaceFleet.Proofs.Reserving

A preview and the hold that is taken after it agree.

A placement chooses among all servers, and then the chosen one is looked up and its room is checked
again before the hold is taken. In a registry whose servers stand under their own ids the second
look finds what the first one saw (`room_of_preview`). So nothing comes between a choice and its
hold, and the cursor moves if and only if a hold was taken: `Orchestrator.reserved_as_previewed`. The
store takes the hold's one write.
-/

namespace WorkspaceFleet

variable {κ χ : Type} [Quantity κ]

namespace Placer

variable {p : Placer} {req : Requirements κ} {strategy : Strategy} {servers : List (Server κ)}

theorem place_of_ok {placement : Placement κ}
    (h : p.preview req strategy servers = .ok placement) :
    p.place req strategy servers =
      (.ok placement, if strategy = .roundRobin then p.advance else p) := by
  rw [place, h]

theorem place_of_error {e : PlacementError} (h : p.preview req strategy servers = .error e) :
    p.place req strategy servers = (.error e, p) := by
  rw [place, h]

theorem preview_verdict (p : Placer) (req : Requirements κ) (strategy : Strategy)
    (servers : List (Server κ)) :
    Placement.Verdict req strategy servers (p.preview req strategy servers) :=
  Placement.choose_verdict req strategy servers p.cursor

/-- **The second look.** The chosen server is found under its id, and has room. -/
theorem room_of_preview {r : Registry κ} (keyed : r.servers.Keyed Server.serverId)
    {placement : Placement κ} (h : p.preview req strategy r.listServers = .ok placement) :
    ∃ s, r.servers.get? placement.serverId = some s ∧ s.fits req.allocation = true := by
  have hverdict := p.preview_verdict req strategy r.listServers
  rw [h] at hverdict
  obtain ⟨s, mem, candidate, rfl⟩ := hverdict.of_ok
  obtain ⟨id, found⟩ := Table.mem_values_iff.1 mem
  obtain rfl := keyed id s found
  exact ⟨s, found, candidate.room⟩

end Placer

namespace Orchestrator

variable {f : Fleet κ χ} {req : Requirements κ} {strategy : Strategy}

theorem reservePlaced_of_error {e : PlacementError}
    (h : f.placer.preview req strategy f.registry.listServers = .error e) :
    reservePlaced .none req strategy f = (.error e, f) := by
  rw [reservePlaced, Placer.place_of_error h]
  exact Fleet.perform_unchanged f _

/-- The hold of a choice is one on the server that was chosen. -/
theorem reservePlaced_of_preview {placement : Placement κ}
    (h : f.placer.preview req strategy f.registry.listServers = .ok placement) :
    (reservePlaced .none req strategy f).1 =
        (f.registry.reserve placement.serverId req.allocation).result.mapError .registry ∧
      (reservePlaced .none req strategy f).2.registry =
        (f.registry.reserve placement.serverId req.allocation).registry ∧
      (reservePlaced .none req strategy f).2.placer =
        if strategy = .roundRobin then f.placer.advance else f.placer := by
  rw [reservePlaced, Placer.place_of_ok h]
  exact ⟨rfl, rfl, rfl⟩

theorem reservePlaced_of_ok {issued : List (Reservation κ)} (b : f.registry.Booked issued)
    {placement : Placement κ}
    (h : f.placer.preview req strategy f.registry.listServers = .ok placement) :
    ∃ hold, (reservePlaced .none req strategy f).1 = .ok hold ∧
      hold.serverId = placement.serverId ∧ hold.allocation = req.allocation ∧
      Held f.registry (reservePlaced .none req strategy f).2.registry hold := by
  obtain ⟨hresult, hregistry, -⟩ := reservePlaced_of_preview h
  obtain ⟨s, found, room⟩ := Placer.room_of_preview b.keyed h
  rcases held_of_reserve b placement.serverId req.allocation with
    ⟨e, hrefused, -⟩ | ⟨hold, hgiven, ⟨hid, hneeds⟩, hheld⟩
  · simp only [Registry.reserve, found, room, if_true] at hrefused
    cases hrefused
  · refine ⟨hold, ?_, hid, hneeds, ?_⟩
    · rw [hresult, hgiven]
      rfl
    · rw [hregistry]
      exact hheld

/-- **A placement takes the hold that its preview announces.** It is on the same server, for the
allocation of the request, or fails with the same error and leaves everything as it was; the second
look never refuses. The cursor moves by one turn if and only if the strategy goes by turns and a
hold was taken. -/
theorem reserved_as_previewed {ids : Registry κ → String → Prop} {f : Fleet κ χ}
    {issued : List (Reservation κ)} (reached : Reached ids (.running f.ledger issued))
    (req : Requirements κ) (strategy : Strategy) :
    (reservePlaced .none req strategy f).1.map Reservation.serverId =
      (f.placer.preview req strategy f.registry.listServers).map Placement.serverId ∧
    ((reservePlaced .none req strategy f).1.map Reservation.serverId).mapError .placement =
      (find f req strategy).map Placement.serverId ∧
    (∀ hold, (reservePlaced .none req strategy f).1 = .ok hold →
      hold.allocation = req.allocation ∧
      Held f.registry (reservePlaced .none req strategy f).2.registry hold) ∧
    (∀ e, (reservePlaced .none req strategy f).1 = .error e →
      (reservePlaced .none req strategy f).2 = f ∧ ∀ cause, e ≠ .registry cause) ∧
    (reservePlaced .none req strategy f).2.placer.cursor =
      if strategy = .roundRobin ∧ (reservePlaced .none req strategy f).1.isOk = true then
        (f.placer.cursor + 1) % word64
      else f.placer.cursor := by
  have b : f.registry.Booked issued := reached.ledger_sound.registry.booked
  have hverdict := f.placer.preview_verdict req strategy f.registry.listServers
  cases h : f.placer.preview req strategy f.registry.listServers with
  | error e =>
    rw [h] at hverdict
    rw [find, h, reservePlaced_of_error h]
    refine ⟨rfl, rfl, nofun, ?_, ?_⟩
    · rintro _ ⟨⟩
      exact ⟨rfl, fun cause heq => hverdict.ne_registry cause (by rw [heq])⟩
    · rw [if_neg fun hand => nomatch hand.2]
  | ok placement =>
    obtain ⟨hold, hgiven, hid, hneeds, hheld⟩ := reservePlaced_of_ok b h
    obtain ⟨-, -, hplacer⟩ := reservePlaced_of_preview h
    rw [find, h, hgiven, hplacer]
    refine ⟨congrArg Except.ok hid, congrArg Except.ok hid, ?_, nofun, ?_⟩
    · rintro _ ⟨⟩
      exact ⟨hneeds, hheld⟩
    · by_cases turns : strategy = .roundRobin
      · rw [if_pos turns, if_pos ⟨turns, rfl⟩, Placer.advance]
      · rw [if_neg turns, if_neg fun hand => turns hand.1]

/-- A successful check of the sample server. -/
def passed : ServerCheck where
  status := .healthy
  consecutiveFailures := 0
  lastError := none
  observed := none
  checkedAt := 0

/-- A fleet with one healthy server. -/
def readyFleet : Fleet Rat Unit where
  ledger := (Ledger.after (.inMemory, [])
    [.addServer SampleRun.config, .recordServerCheck "a" passed]).1
  pool := ∅
  placer := .initial
  events := []

theorem readyFleet_reached : Reached Registry.Unrecorded (.running readyFleet.ledger []) := by
  refine .performed (.performed .inMemory ?_) ?_
  · exact SampleRun.config_inRange
  · exact ⟨by decide, nofun, by decide⟩

/-- The first turn goes to the only server. -/
theorem reserved_as_previewed_in_turn : ∃ hold,
    (reservePlaced .none (.ofResources 1 40 3) .roundRobin readyFleet).1 = .ok hold ∧
      hold.serverId = "a" ∧
      (reservePlaced .none (.ofResources 1 40 3) .roundRobin readyFleet).2.placer.cursor = 1 := by
  obtain ⟨hsame, -, -, -, hcursor⟩ :=
    reserved_as_previewed readyFleet_reached (.ofResources 1 40 3) .roundRobin
  have hchosen : (readyFleet.placer.preview (.ofResources 1 40 3) .roundRobin
      readyFleet.registry.listServers).map Placement.serverId = .ok "a" :=
    eq_ok_of_toOption (by decide +kernel)
  rw [hchosen, map_eq_ok] at hsame
  obtain ⟨hold, hgiven, hid⟩ := hsame
  rw [hgiven] at hcursor
  exact ⟨hold, hgiven, hid.symm, hcursor⟩

end Orchestrator
end WorkspaceFleet
