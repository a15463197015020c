import WorkspaceFleet.Proofs.Run

/-!
# WorkspaceFleet.Proofs.WriteThrough

The store behind a registry never lags and never leads.

Whatever its callers do, and wherever a process died before, a registry over a store has a row for
every server and workspace and no other, and every row reads back as the value in memory. There is
one exception, which a restart makes: a server is not taken for healthy any more, and its row is
left until the server is written again. `Serving.writes_through` says this for every run in which
the values that are written can be stored: their whole numbers fit their words, and the others are
finite and read back as they are.

Nothing is promised by the callers here but that a change of a record keeps its container.
-/

namespace WorkspaceFleet

variable {κ : Type}

/-- No server is put under the id. -/
def Unwritten (ws : List (Write κ)) (id : String) : Prop :=
  ∀ s, .putServer s ∈ ws → s.serverId ≠ id

theorem Unwritten.concat {ws : List (Write κ)} {id : String} (h : Unwritten ws id) {w : Write κ}
    (other : ∀ s, w = .putServer s → s.serverId ≠ id) : Unwritten (ws ++ [w]) id := by
  intro s hs
  rcases List.mem_append.1 hs with hearlier | hlast
  · exact h s hearlier
  · exact other s (List.mem_singleton.1 hlast).symm

variable [Quantity κ]

/-! ## Values that can be stored -/

/-- A number that is written as one and reads back as it is. -/
def Quantity.Steady (x : κ) : Prop := Quantity.isFinite x = true ∧ Quantity.reread x = x

theorem Quantity.Steady.readable {x : κ} (h : Quantity.Steady x) : Quantity.Readable x :=
  ⟨h.1, by rw [h.2]; exact h.1⟩

structure Server.Storable (s : Server κ) : Prop where
  range : s.InRange
  numbers : s.Numbers Quantity.Steady

structure Workspace.Storable (w : Workspace κ) : Prop where
  range : w.InRange
  numbers : w.Numbers Quantity.Steady

def Write.Storable : Write κ → Prop
  | .putServer s => s.Storable
  | .putWorkspace w => w.Storable
  | .deleteServer _ => True
  | .deleteWorkspace _ => True

theorem Server.Storable.readable {s : Server κ} (h : s.Storable) : s.Numbers Quantity.Readable :=
  ⟨h.numbers.total.readable, h.numbers.used.readable⟩

theorem Workspace.Storable.readable {w : Workspace κ} (h : w.Storable) :
    w.Numbers Quantity.Readable :=
  ⟨h.numbers.percent.readable, Quantity.Steady.readable h.numbers.allocation⟩

theorem Server.Storable.decode_reread {s : Server κ} (h : s.Storable) :
    Server.decode (Store.reread s.encode) = .ok s := by
  refine Server.decode_eq_ok.2 ⟨⟨h.range, h.readable⟩, ?_⟩
  rw [Server.reread, h.numbers.total.2, h.numbers.used.2]

theorem Workspace.Storable.decode_reread {w : Workspace κ} (h : w.Storable) :
    Workspace.decode (Store.reread w.encode) = .ok w := by
  refine Workspace.decode_eq_ok.2 ⟨⟨h.range, h.readable⟩, ?_⟩
  rw [Workspace.reread, Allocation.reread, h.numbers.percent.2,
    show Quantity.reread w.allocation.cpuCores = _ from h.numbers.allocation.2]

/-- The row of a server that can be stored reads back as the server. -/
theorem Server.Storable.read {s : Server κ} (h : s.Storable) :
    Store.readRow Server.decode s.encode = .ok s := by
  rw [Store.readRow, h.decode_reread]

theorem Workspace.Storable.read {w : Workspace κ} (h : w.Storable) :
    Store.readRow Workspace.decode w.encode = .ok w := by
  rw [Store.readRow, h.decode_reread]

/-! ## Rows in step with values -/

/-- What stands in the store and in memory under the id of a server, after these writes. -/
inductive ServerInStep (ws : List (Write κ)) (id : String) :
    Option (Document κ) → Option (Server κ) → Prop where
  | absent : ServerInStep ws id none none
  | same {s : Server κ} (storable : s.Storable) (named : s.serverId = id) :
      ServerInStep ws id (some s.encode) (some s)
  /-- It was healthy when the store was opened. -/
  | behind {s : Server κ} (storable : s.Storable) (named : s.serverId = id)
      (healthy : s.status = .healthy) (unwritten : Unwritten ws id) :
      ServerInStep ws id (some s.encode) (some (Registry.reopened s))

/-- What stands in the store and in memory under the id of a container. -/
inductive WorkspaceInStep (id : String) : Option (Document κ) → Option (Workspace κ) → Prop where
  | absent : WorkspaceInStep id none none
  | same {w : Workspace κ} (storable : w.Storable) (named : w.containerId = id) :
      WorkspaceInStep id (some w.encode) (some w)

/-- The store is in step with the registry, after these writes since it was opened. -/
structure Store.InStep (store : Store κ) (r : Registry κ) (ws : List (Write κ)) : Prop where
  servers : ∀ id, ServerInStep ws id (store.servers.get? id) (r.servers.get? id)
  workspaces : ∀ id, WorkspaceInStep id (store.workspaces.get? id) (r.workspaces.get? id)

theorem ServerInStep.concat {ws : List (Write κ)} {id : String} {row : Option (Document κ)}
    {s : Option (Server κ)} (h : ServerInStep ws id row s) {w : Write κ}
    (other : ∀ s, w = .putServer s → s.serverId ≠ id) : ServerInStep (ws ++ [w]) id row s := by
  cases h with
  | absent => exact .absent
  | same storable named => exact .same storable named
  | behind storable named healthy unwritten =>
    exact .behind storable named healthy (unwritten.concat other)

namespace Store.InStep

variable {store : Store κ} {r : Registry κ} {ws : List (Write κ)}

theorem keyed (h : store.InStep r ws) : r.servers.Keyed Server.serverId := by
  intro id s hs
  have hid := h.servers id
  rw [hs] at hid
  generalize store.servers.get? id = row at hid
  cases hid with
  | same storable named => exact named
  | behind storable named healthy unwritten => rw [Registry.serverId_reopened, named]

theorem filed (h : store.InStep r ws) : r.workspaces.Keyed Workspace.containerId := by
  intro id w hw
  have hid := h.workspaces id
  rw [hw] at hid
  generalize store.workspaces.get? id = row at hid
  cases hid with
  | same storable named => exact named

/-- **One write** keeps store and registry in step. -/
theorem apply (h : store.InStep r ws) {w : Write κ} (storable : w.Storable) :
    (store.apply w).InStep (r.absorb w) (ws ++ [w]) := by
  cases w with
  | putServer s =>
    refine ⟨fun id => ?_, h.workspaces⟩
    simp only [Store.apply, Registry.absorb, Table.get?_insert]
    split
    · next hid => exact .same storable hid
    · next hid =>
      refine (h.servers id).concat ?_
      rintro _ ⟨⟩
      exact hid
  | deleteServer j =>
    refine ⟨fun id => ?_, h.workspaces⟩
    simp only [Store.apply, Registry.absorb, Table.get?_erase]
    split
    · exact .absent
    · exact (h.servers id).concat (by rintro _ ⟨⟩)
  | putWorkspace w =>
    refine ⟨fun id => (h.servers id).concat (by rintro _ ⟨⟩), fun id => ?_⟩
    simp only [Store.apply, Registry.absorb, Table.get?_insert]
    split
    · next hid => exact .same storable hid
    · exact h.workspaces id
  | deleteWorkspace j =>
    refine ⟨fun id => (h.servers id).concat (by rintro _ ⟨⟩), fun id => ?_⟩
    simp only [Store.apply, Registry.absorb, Table.get?_erase]
    split
    · exact .absent
    · exact h.workspaces id

theorem applyAll (h : store.InStep r ws) {more : List (Write κ)}
    (storable : ∀ w ∈ more, w.Storable) :
    (store.applyAll more).InStep (r.absorbAll more) (ws ++ more) := by
  induction more generalizing store r ws with
  | nil => rwa [List.append_nil]
  | cons w rest ih =>
    have hfirst := h.apply (storable w List.mem_cons_self)
    have hrest := ih hfirst fun v hv => storable v (List.mem_cons_of_mem w hv)
    rwa [List.append_assoc] at hrest

/-- Holds have no rows. -/
theorem of_rest {r' : Registry κ} (h : store.InStep r ws) (same : r.rest = r'.rest) :
    store.InStep r' ws := by
  have hservers : r'.servers = r.servers := (congrArg Registry.servers same).symm
  have hworkspaces : r'.workspaces = r.workspaces := (congrArg Registry.workspaces same).symm
  exact ⟨hservers ▸ h.servers, hworkspaces ▸ h.workspaces⟩

end Store.InStep

/-! ## Operations -/

namespace Registry

/-- An operation of the registry: any server is added, or another call is made. -/
inductive Act (κ : Type) : Type 1 where
  | add (s : Server κ)
  | made (call : Call κ)

def Act.change (r : Registry κ) : Act κ → Change κ (List (Reservation κ))
  | .add s => (r.addServer s).map fun _ => []
  | .made call => call.change r

/-- A change of a record keeps its container. -/
def Act.KeepsContainer : Act κ → Prop
  | .made (.updateWorkspace _ f) => ∀ w, (f w).containerId = w.containerId
  | _ => True

variable {r : Registry κ}

theorem rest_absorbAll_reserve (keyed : r.servers.Keyed Server.serverId) (id : String)
    (a : Allocation κ) :
    (r.absorbAll (r.reserve id a).writes).rest = (r.reserve id a).registry.rest := by
  rcases reserve_cases r id a with ⟨e, h⟩ | ⟨s, found, -, h⟩
  · rw [h]
    rfl
  · rw [h, ← keyed id s found]
    rfl

/-- **The writes of an operation** make the tables of the registry after it. -/
theorem Act.rest_absorbAll (keyed : r.servers.Keyed Server.serverId)
    (filed : r.workspaces.Keyed Workspace.containerId) {act : Act κ} (keeps : act.KeepsContainer) :
    (r.absorbAll (act.change r).writes).rest = (act.change r).registry.rest := by
  have hadd : ∀ s, (r.absorbAll (r.addServer s).writes).rest = (r.addServer s).registry.rest := by
    intro s
    rcases addServer_cases r s with ⟨-, h⟩ | ⟨-, h⟩ <;> rw [h] <;> rfl
  cases act with
  | add s => exact hadd s
  | made call =>
    cases call with
    | addServer c => exact hadd _
    | removeServer id =>
      simp only [change, Call.change, Change.map, removeServer]
      split
      · rfl
      · split <;> rfl
    | recordServerCheck id c =>
      simp only [change, Call.change, Change.map]
      rcases recordServerCheck_cases r id c with ⟨-, h⟩ | ⟨s, found, h⟩
      · rw [h]
        rfl
      · rw [h, ← keyed id s found]
        rfl
    | reserve id a => exact rest_absorbAll_reserve keyed id a
    | reserveWith a select lift =>
      simp only [change, Call.change, Change.map, reserveWith]
      split
      · rfl
      · exact rest_absorbAll_reserve keyed _ a
    | release hold =>
      simp only [change, Call.change, Change.map, release]
      split
      · rfl
      · split
        · rfl
        · next s found =>
          rw [← keyed _ s found]
          rfl
    | commit hold c now =>
      simp only [change, Call.change, Change.map, commit]
      split <;> rfl
    | updateWorkspace id f =>
      simp only [change, Call.change, Change.map, updateWorkspace]
      split
      · rfl
      · next w found =>
        rw [← filed id w found, ← keeps w]
        rfl
    | removeWorkspace id =>
      simp only [change, Call.change, Change.map, removeWorkspace]
      split
      · rfl
      · next w found =>
        split
        · rfl
        · next s server =>
          rw [← keyed _ s server]
          rfl
    | reconcile =>
      simp only [change, Call.change, Change.map]
      rw [writes_reconcile, absorbAll_putServer, ← servers_reconcile]
      rfl

end Registry

/-! ## Restarts -/

/-- The rows of a store are written forms, each under the id that its value has. -/
structure Store.Rows (store : Store κ) : Prop where
  servers : ∀ id row, store.servers.get? id = some row →
    ∃ s : Server κ, row = s.encode ∧ s.Storable ∧ s.serverId = id
  workspaces : ∀ id row, store.workspaces.get? id = some row →
    ∃ w : Workspace κ, row = w.encode ∧ w.Storable ∧ w.containerId = id

/-- Whatever a process leaves of a store that was in step with it. -/
theorem Store.InStep.rows {store : Store κ} {r : Registry κ} {ws : List (Write κ)}
    (h : store.InStep r ws) : store.Rows where
  servers id row hrow := by
    have hid := h.servers id
    rw [hrow] at hid
    generalize r.servers.get? id = s at hid
    cases hid with
    | same storable named => exact ⟨_, rfl, storable, named⟩
    | behind storable named healthy unwritten => exact ⟨_, rfl, storable, named⟩
  workspaces id row hrow := by
    have hid := h.workspaces id
    rw [hrow] at hid
    generalize r.workspaces.get? id = w at hid
    cases hid with
    | same storable named => exact ⟨_, rfl, storable, named⟩

namespace Store.Rows

variable {store : Store κ}

theorem empty : (Store.empty : Store κ).Rows := ⟨nofun, nofun⟩

theorem serverId_of_read (h : store.Rows) {id : String} {row : Document κ} {v : Server κ}
    (hrow : store.servers.get? id = some row) (hread : Store.readRow Server.decode row = .ok v) :
    v.serverId = id := by
  obtain ⟨s, rfl, hs, named⟩ := h.servers id row hrow
  cases hs.read.symm.trans hread
  exact named

theorem containerId_of_read (h : store.Rows) {id : String} {row : Document κ} {v : Workspace κ}
    (hrow : store.workspaces.get? id = some row)
    (hread : Store.readRow Workspace.decode row = .ok v) : v.containerId = id := by
  obtain ⟨w, rfl, hw, named⟩ := h.workspaces id row hrow
  cases hw.read.symm.trans hread
  exact named

/-- What is read from rows is in step with them. -/
theorem inStep (h : store.Rows) {l : Registry κ} (reads : Registry.Reads store l) :
    store.InStep l [] where
  servers id := by
    rcases reads.servers id with ⟨hrow, hs⟩ | ⟨row, s', hrow, hs, hread⟩
    · rw [hrow, hs]
      exact .absent
    · obtain ⟨s, rfl, storable, named⟩ := h.servers id row hrow
      rw [storable.read] at hread
      cases hread
      rw [hrow, hs]
      by_cases healthy : s.status = .healthy
      · exact .behind storable named healthy nofun
      · rw [Registry.reopened, if_neg healthy]
        exact .same storable named
  workspaces id := by
    rcases reads.workspaces id with ⟨hrow, hw⟩ | ⟨row, w', hrow, hw, hread⟩
    · rw [hrow, hw]
      exact .absent
    · obtain ⟨w, rfl, storable, named⟩ := h.workspaces id row hrow
      cases storable.read.symm.trans hread
      rw [hrow, hw]
      exact .same storable named

/-- A store that opens is in step with the registry that is made of it. -/
theorem opened (h : store.Rows) {c : Change κ (List UsageCorrection)}
    (loads : Registry.load store = .ok c) (storable : ∀ w ∈ c.writes, w.Storable) (k : Nat) :
    (store.applyAll (c.writes.take k)).Rows ∧
      (store.applyAll c.writes).InStep c.registry c.writes := by
  obtain ⟨l, reads, hregistry, hwrites⟩ := Registry.reads_of_named
    (fun _ _ _ => h.serverId_of_read) (fun _ _ _ => h.containerId_of_read) loads
  have hstep := h.inStep reads
  refine ⟨(hstep.applyAll fun w hw => storable w (List.mem_of_mem_take hw)).rows, ?_⟩
  refine (hstep.applyAll storable).of_rest ?_
  have hall := Registry.Act.rest_absorbAll hstep.keyed hstep.filed
    (show (Registry.Act.made .reconcile).KeepsContainer from trivial)
  rw [hwrites, hregistry]
  exact hall

end Store.Rows

/-! ## Runs -/

/-- The phases of a process that serves from a store, with the writes since it was opened, those of
its opening among them. All values that are written can be stored. A process may die after any
number of the writes of an operation, and of those of a restart. -/
inductive Serving : Phase κ → List (Write κ) → Prop where
  | created : Serving (.stopped .empty) []
  | opened {store : Store κ} {c : Change κ (List UsageCorrection)}
      (before : Serving (.stopped store) []) (loads : Registry.load store = .ok c)
      (storable : ∀ w ∈ c.writes, w.Storable) :
      Serving (.running ⟨c.registry, some (store.applyAll c.writes)⟩ []) c.writes
  | performed {ledger : Ledger κ} {issued : List (Reservation κ)} {ws : List (Write κ)}
      {act : Registry.Act κ} (before : Serving (.running ledger issued) ws)
      (keeps : act.KeepsContainer)
      (storable : ∀ w ∈ (act.change ledger.registry).writes, w.Storable) :
      Serving (.running (ledger.perform (act.change ·)).2
          (issued ++ (ledger.perform (act.change ·)).1))
        (ws ++ (act.change ledger.registry).writes)
  | halted {ledger : Ledger κ} {store : Store κ} {issued : List (Reservation κ)}
      {ws : List (Write κ)} (before : Serving (.running ledger issued) ws)
      (stored : ledger.store = some store) : Serving (.stopped store) []
  | died {ledger : Ledger κ} {store : Store κ} {issued : List (Reservation κ)}
      {ws : List (Write κ)} {act : Registry.Act κ} (before : Serving (.running ledger issued) ws)
      (stored : ledger.store = some store) (keeps : act.KeepsContainer)
      (storable : ∀ w ∈ (act.change ledger.registry).writes, w.Storable) (k : Nat) :
      Serving (.stopped (store.applyAll ((act.change ledger.registry).writes.take k))) []
  | diedOpening {store : Store κ} {c : Change κ (List UsageCorrection)}
      (before : Serving (.stopped store) []) (loads : Registry.load store = .ok c)
      (storable : ∀ w ∈ c.writes, w.Storable) (k : Nat) :
      Serving (.stopped (store.applyAll (c.writes.take k))) []

/-- What every such phase keeps. -/
def Phase.InStep (ws : List (Write κ)) : Phase κ → Prop
  | .running ledger _ => ∃ store, ledger.store = some store ∧ store.InStep ledger.registry ws
  | .stopped store => store.Rows

/-- **Step.** An operation keeps the store in step with the registry. -/
theorem Store.InStep.performed {store : Store κ} {r : Registry κ} {ws : List (Write κ)}
    (h : store.InStep r ws) {act : Registry.Act κ} (keeps : act.KeepsContainer)
    (storable : ∀ w ∈ (act.change r).writes, w.Storable) :
    (store.applyAll (act.change r).writes).InStep (act.change r).registry
      (ws ++ (act.change r).writes) :=
  (h.applyAll storable).of_rest (Registry.Act.rest_absorbAll h.keyed h.filed keeps)

/-- **Run.** Every phase is in step. -/
theorem Serving.inStep {p : Phase κ} {ws : List (Write κ)} (h : Serving p ws) : p.InStep ws := by
  induction h with
  | created => exact Store.Rows.empty
  | opened before loads storable ih => exact ⟨_, rfl, (ih.opened loads storable 0).2⟩
  | performed before keeps storable ih =>
    obtain ⟨store, hstore, hstep⟩ := ih
    refine ⟨_, ?_, hstep.performed keeps storable⟩
    rw [Ledger.perform, hstore]
    rfl
  | halted before stored ih =>
    obtain ⟨store, hstore, hstep⟩ := ih
    rw [stored] at hstore
    cases hstore
    exact hstep.rows
  | died before stored keeps storable k ih =>
    obtain ⟨store, hstore, hstep⟩ := ih
    rw [stored] at hstore
    cases hstore
    exact (hstep.applyAll fun w hw => storable w (List.mem_of_mem_take hw)).rows
  | diedOpening before loads storable k ih => exact (ih.opened loads storable k).1

/-- **Write-through.** After every operation the store holds the same records as the registry, read
back value by value, and the same servers; a stored server differs from the one in memory at most in
that it is healthy and the other is not, and only if it was not written since the store was
opened. -/
theorem Serving.writes_through {ledger : Ledger κ} {issued : List (Reservation κ)}
    {ws : List (Write κ)} (h : Serving (.running ledger issued) ws) :
    ∃ store, ledger.store = some store ∧
      (∀ id, store.getWorkspace id = .ok (ledger.registry.workspaces.get? id)) ∧
      (∀ id, store.servers.contains id = ledger.registry.servers.contains id) ∧
      ∀ id s, ledger.registry.servers.get? id = some s → ∃ v,
        store.getServer id = .ok (some v) ∧
        (v = s ∨ v.status = .healthy ∧ s = { v with status := .unhealthy } ∧ Unwritten ws id) := by
  obtain ⟨store, hstore, hstep⟩ := h.inStep
  refine ⟨store, hstore, fun id => ?_, fun id => ?_, fun id s found => ?_⟩
  · have hid := hstep.workspaces id
    rw [Store.getWorkspace]
    generalize store.workspaces.get? id = row, ledger.registry.workspaces.get? id = w at hid
    cases hid with
    | absent => rfl
    | same storable named =>
      dsimp only
      rw [storable.read]
      rfl
  · have hid := hstep.servers id
    rw [Table.contains, Table.contains]
    generalize store.servers.get? id = row, ledger.registry.servers.get? id = s at hid
    cases hid <;> rfl
  · have hid := hstep.servers id
    rw [Store.getServer]
    rw [found] at hid
    generalize store.servers.get? id = row at hid
    cases hid with
    | same storable named =>
      dsimp only
      rw [storable.read]
      exact ⟨s, rfl, .inl rfl⟩
    | @behind v storable named healthy unwritten =>
      dsimp only
      rw [storable.read]
      refine ⟨v, rfl, .inr ⟨healthy, ?_, unwritten⟩⟩
      rw [Registry.reopened, if_pos healthy]

namespace ServedRun

/-- The server answers. -/
def check : ServerCheck := ⟨.healthy, 0, none, none, 0⟩

/-- A server is registered and answers. -/
def acts : List (Registry.Act Rat) :=
  [.made (.addServer SampleRun.config), .made (.recordServerCheck "a" check)]

def served : Ledger Rat :=
  acts.foldl (fun ledger act => (ledger.perform (act.change ·)).2) ⟨.empty, some .empty⟩

def store : Store Rat := served.store.getD .empty

theorem storable {s : Server Rat} (h : s.InRange) : s.Storable := ⟨h, ⟨rfl, rfl⟩, ⟨rfl, rfl⟩⟩

theorem serving : ∃ ws, Serving (.running served []) ws := by
  have hopened : Serving (.running (⟨.empty, some .empty⟩ : Ledger Rat) []) [] := by
    have loads : Registry.load (.empty : Store Rat) =
        .ok ((.empty : Registry Rat).reconcile.map fun _ => []) := rfl
    exact .opened .created loads (List.forall_mem_nil _)
  have hconfig : (Server.ofConfig SampleRun.config : Server Rat).InRange :=
    .ofConfig SampleRun.config_inRange
  have hadded := hopened.performed
    (show (Registry.Act.made (.addServer SampleRun.config)).KeepsContainer from trivial)
    fun w hw => by
      rw [List.mem_singleton.1 hw]
      exact storable hconfig
  have hchecked := hadded.performed
    (show (Registry.Act.made (.recordServerCheck "a" check)).KeepsContainer from trivial)
    fun w hw => by
      rw [List.mem_singleton.1 hw]
      exact storable (hconfig.checked ⟨by decide, nofun, by decide⟩)
  exact ⟨_, hchecked⟩

end ServedRun

/-- A server that answered before a restart: its row still says so, and memory does not. -/
theorem restart_writes_through : ∃ (ledger : Ledger Rat) (ws : List (Write Rat)) (store : Store Rat)
    (s v : Server Rat), Serving (.running ledger []) ws ∧ ledger.store = some store ∧
    ledger.registry.servers.get? "a" = some s ∧ store.getServer "a" = .ok (some v) ∧
    v.status = .healthy ∧ s = { v with status := .unhealthy } ∧ Unwritten ws "a" := by
  obtain ⟨ws, hserving⟩ := ServedRun.serving
  have hstored : ServedRun.served.store = some ServedRun.store := by
    obtain ⟨rows, hrows⟩ : ∃ rows, ServedRun.served.store = some rows := ⟨_, rfl⟩
    rw [ServedRun.store, hrows, Option.getD_some]
  obtain ⟨c, hc⟩ : ∃ c, (Registry.load ServedRun.store).toOption = some c :=
    Option.isSome_iff_exists.1 (by decide +kernel)
  have hwrites : (Registry.load ServedRun.store).toOption.map (·.writes.isEmpty) = some true := by
    decide +kernel
  have hstatus : (Registry.load ServedRun.store).toOption.bind
      (fun c => (c.registry.servers.get? "a").map (·.status)) = some .unhealthy := by
    decide +kernel
  rw [hc] at hwrites hstatus
  have hnone : c.writes = [] := List.isEmpty_iff.1 (Option.some.inj hwrites)
  obtain ⟨s, hs, hunhealthy⟩ := Option.map_eq_some_iff.1 hstatus
  have hopened := Serving.opened (hserving.halted hstored) (eq_ok_of_toOption hc)
    (hnone ▸ List.forall_mem_nil _)
  obtain ⟨store, hstore, -, -, hservers⟩ := Serving.writes_through hopened
  obtain ⟨v, hv, hsame⟩ := hservers "a" s hs
  have hhealthy : v.status = .healthy := by
    have hrow : ((ServedRun.store.getServer "a").toOption.bind fun v => v.map (·.status)) =
        some .healthy := by decide +kernel
    rw [hnone] at hstore
    cases hstore
    rw [show ServedRun.store.getServer "a" = .ok (some v) from hv] at hrow
    exact Option.some.inj hrow
  rcases hsame with rfl | ⟨-, hlag, hunwritten⟩
  · rw [hhealthy] at hunhealthy
    cases hunhealthy
  · exact ⟨_, _, store, s, v, hopened, hstore, hs, hv, hhealthy, hlag, hunwritten⟩

end WorkspaceFleet
