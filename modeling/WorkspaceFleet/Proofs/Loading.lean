import WorkspaceFleet.Proofs.Registering
import WorkspaceFleet.Proofs.Vouching

/-!
# WorkspaceFleet.Proofs.Loading

A start as a computation that may fail, without the disk and the log.

The files that certificates are read from stay while servers are loaded, so work over them comes
to the same result in every session: `Work.Comes` has one rule for each way of putting work
together, and by them `Service.startup_of_finds` says that a start over a store that opens comes
to `Service.loaded`.

Each of the two loops of a start fills a table from a list. `Fills.view_foldlM` says what such a
loop leaves and `Fills.exists_foldlM` when it comes to its end; `Service.fills_taken` and
`Service.fills_attached` are the two loops. The first leaves only registered servers with a client
(`Service.Orderly`), so after the second exactly the registered servers have one
(`Service.contains_of_attached`).
-/

namespace WorkspaceFleet

variable {α β σ ε : Type}

/-! ## Loops that fill a table -/

/-- A step that gives the key of an entry a value, unless it has one. It fails where no value can be
made. -/
structure Fills (key : α → String) (make : α → Option β) (view : σ → String → Option β)
    (step : σ → α → Except ε σ) : Prop where
  skips : ∀ f a v, view f (key a) = some v → step f a = .ok f
  fails : ∀ f a, view f (key a) = none → make a = none → ∃ e, step f a = .error e
  puts : ∀ f a b, view f (key a) = none → make a = some b →
    ∃ f', step f a = .ok f' ∧ ∀ id, view f' id = if key a = id then some b else view f id

namespace Fills

variable {key : α → String} {make : α → Option β} {view : σ → String → Option β}
  {step : σ → α → Except ε σ} {l : List α} {f f' : σ}

/-- The values that a loop leaves: those that were there, and for every other key what is made of
its first entry. -/
theorem view_foldlM (h : Fills key make view step) (run : l.foldlM step f = .ok f') (id : String) :
    view f' id = (view f id).or ((l.find? (key · == id)).bind make) := by
  induction l generalizing f with
  | nil =>
    cases run
    exact (Option.or_none).symm
  | cons a rest ih =>
    rw [List.foldlM_cons, bind_eq_ok] at run
    obtain ⟨f₁, hstep, hrest⟩ := run
    rw [ih hrest, List.find?_cons]
    cases hv : view f (key a) with
    | some v =>
      rw [h.skips f a v hv] at hstep
      cases hstep
      by_cases hid : key a = id
      · rw [← hid, hv, Option.some_or, Option.some_or]
      · rw [beq_false_of_ne hid]
    | none =>
      cases hm : make a with
      | none =>
        obtain ⟨e, he⟩ := h.fails f a hv hm
        rw [he] at hstep
        cases hstep
      | some b =>
        obtain ⟨f₂, hf₂, hview⟩ := h.puts f a b hv hm
        rw [hf₂] at hstep
        cases hstep
        rw [hview]
        by_cases hid : key a = id
        · rw [if_pos hid, ← hid, hv, beq_self_eq_true, Option.some_or, Option.none_or]
          exact hm.symm
        · rw [if_neg hid, beq_false_of_ne hid]

/-- A loop comes to its end if and only if a value can be made for every key that has none. -/
theorem exists_foldlM (h : Fills key make view step) (nodup : (l.map key).Nodup) :
    (∃ f', l.foldlM step f = .ok f') ↔
      ∀ a ∈ l, view f (key a) = none → ∃ b, make a = some b := by
  induction l generalizing f with
  | nil => exact iff_of_true ⟨f, rfl⟩ nofun
  | cons a rest ih =>
    rw [List.map_cons, List.nodup_cons] at nodup
    rw [List.forall_mem_cons]
    cases hv : view f (key a) with
    | some v =>
      rw [List.foldlM_cons, h.skips f a v hv]
      exact (ih nodup.2).trans ⟨fun hall => ⟨nofun, hall⟩, fun hall => hall.2⟩
    | none =>
      cases hm : make a with
      | none =>
        obtain ⟨e, he⟩ := h.fails f a hv hm
        rw [List.foldlM_cons, he]
        refine iff_of_false (fun ⟨_, hf⟩ => nomatch hf) fun hall => ?_
        obtain ⟨b, hb⟩ := hall.1 rfl
        cases hb
      | some b =>
        obtain ⟨f₁, hf₁, hview⟩ := h.puts f a b hv hm
        rw [List.foldlM_cons, hf₁]
        refine (ih nodup.2).trans ⟨fun hall => ⟨fun _ => ⟨b, rfl⟩, fun c hc hnone => ?_⟩,
          fun hall c hc hnone => ?_⟩
        · have hne : key a ≠ key c := fun heq => nodup.1 (heq ▸ List.mem_map_of_mem hc)
          exact hall c hc (by rw [hview, if_neg hne, hnone])
        · have hne : key a ≠ key c := fun heq => nodup.1 (heq ▸ List.mem_map_of_mem hc)
          rw [hview, if_neg hne] at hnone
          exact hall.2 c hc hnone

end Fills

theorem Table.Keyed.find?_values {key : α → String} {t : Table α} (h : t.Keyed key) (k : String) :
    t.values.find? (key · == k) = t.get? k := by
  cases hk : t.get? k with
  | none =>
    rw [List.find?_eq_none]
    intro v hv hkey
    obtain ⟨j, hj⟩ := mem_values_iff.1 hv
    rw [← h j v hj, beq_iff_eq.1 hkey, hk] at hj
    cases hj
  | some v =>
    cases hfind : t.values.find? (key · == k) with
    | none =>
      rw [List.find?_eq_none] at hfind
      exact absurd (beq_iff_eq.2 (h k v hk)) (hfind v (mem_values_iff.2 ⟨k, hk⟩))
    | some w =>
      obtain ⟨j, hj⟩ := mem_values_iff.1 (List.mem_of_find?_eq_some hfind)
      have hkey : key w = k := by simpa using List.find?_some hfind
      rw [← h j w hj, hkey, hk] at hj
      exact hj.symm ▸ rfl

/-! ## Work over files that stay -/

namespace Work

/-- On every session with these files the work comes to this result, and leaves the files as they
are. -/
def Comes (files : Files) (w : Work α) (r : Except ServiceError α) : Prop :=
  ∀ s : Session, s.disk.files = files → (w.run.run s).1 = r ∧ (w.run.run s).2.disk.files = files

variable {files : Files}

theorem comes_pure (files : Files) (a : α) : Comes files (pure a) (.ok a) :=
  fun _ hs => ⟨rfl, hs⟩

theorem comes_check (files : Files) (r : Except ServiceError α) : Comes files (check r) r :=
  fun _ hs => ⟨rfl, hs⟩

theorem comes_note (files : Files) (r : LogRecord) : Comes files (note r) (.ok ()) :=
  fun _ hs => ⟨rfl, hs⟩

theorem run_bind (w : Work α) (next : α → Work β) (s : Session) :
    (w >>= next).run.run s =
      match (w.run.run s).1 with
      | .error e => (.error e, (w.run.run s).2)
      | .ok a => (next a).run.run (w.run.run s).2 := by
  show (match w.run.run s with | (r, s₁) => (ExceptT.bindCont next r).run s₁) = _
  cases w.run.run s with
  | mk r s₁ => cases r <;> rfl

theorem run_note (r : LogRecord) (s : Session) :
    (note r).run.run s = (.ok (), { s with log := s.log ++ [r] }) := rfl

theorem run_check (r : Except ServiceError α) (s : Session) : (check r).run.run s = (r, s) := rfl

theorem run_disk (s : Session) : disk.run.run s = (.ok s.disk, s) := rfl

theorem run_onDisk (f : Disk → Disk) (s : Session) :
    (onDisk f).run.run s = (.ok (), { s with disk := f s.disk }) := rfl

theorem comes_bind {w : Work α} {r : Except ServiceError α} {next : α → Work β}
    {r' : α → Except ServiceError β} (h : Comes files w r)
    (then_ : ∀ a, Comes files (next a) (r' a)) : Comes files (w >>= next) (r >>= r') := by
  intro s hs
  obtain ⟨hresult, hfiles⟩ := h s hs
  rw [run_bind, hresult]
  cases r with
  | error e => exact ⟨rfl, hfiles⟩
  | ok a => exact then_ a _ hfiles

theorem comes_then {w : Work α} {a : α} {next : α → Work β} {r : Except ServiceError β}
    (h : Comes files w (.ok a)) (rest : Comes files (next a) r) : Comes files (w >>= next) r := by
  intro s hs
  obtain ⟨hresult, hfiles⟩ := h s hs
  rw [run_bind, hresult]
  exact rest _ hfiles

theorem comes_map {w : Work α} {r : Except ServiceError α} {next : α → Work β} {g : α → β}
    (h : Comes files w r) (rest : ∀ a, Comes files (next a) (.ok (g a))) :
    Comes files (w >>= next) (r.map g) := by
  intro s hs
  obtain ⟨hresult, hfiles⟩ := h s hs
  rw [run_bind, hresult]
  cases r with
  | error e => exact ⟨rfl, hfiles⟩
  | ok a => exact rest a _ hfiles

theorem comes_keep {w : Work α} {r : Except ServiceError α} {next : α → Work α}
    (h : Comes files w r) (rest : ∀ a, Comes files (next a) (.ok a)) :
    Comes files (w >>= next) r := by
  have hid : r.map id = r := by cases r <;> rfl
  exact hid ▸ comes_map (g := id) h rest

/-- What looks at the disk sees these files. -/
theorem comes_disk {next : Disk → Work β} {r : Except ServiceError β}
    (h : ∀ d, d.files = files → Comes files (next d) r) : Comes files (disk >>= next) r :=
  fun s hs => h s.disk hs s hs

theorem comes_foldlM {step : β → α → Work β} {step' : β → α → Except ServiceError β}
    (h : ∀ b a, Comes files (step b a) (step' b a)) (l : List α) (b : β) :
    Comes files (l.foldlM step b) (l.foldlM step' b) := by
  induction l generalizing b with
  | nil => exact comes_pure files b
  | cons a rest ih =>
    rw [List.foldlM_cons, List.foldlM_cons]
    exact comes_bind (h b a) ih

end Work

namespace Service

variable {files : Files} {dataDir : String} {config : FleetConfig Float} {pool : ClientConfig}
  {ledger : Ledger Float} {fleet fleet' : Fleet Float Client}

/-! ## The loops of a start -/

/-- What `takeIn` comes to. -/
def taken (files : Files) (pool : ClientConfig) (fleet : Fleet Float Client)
    (s : ServerConfig Float) : Except ServiceError (Fleet Float Client) :=
  match fleet.registry.servers.get? s.serverId with
  | some _ => .ok fleet
  | none =>
    let p := Orchestrator.addServer (Client.connect files pool) s fleet
    (p.1.mapError .orchestrator).map fun _ => p.2

/-- What `attach` comes to. -/
def attached (files : Files) (pool : ClientConfig) (fleet : Fleet Float Client)
    (s : Server Float) : Except ServiceError (Fleet Float Client) :=
  if fleet.pool.contains s.serverId then .ok fleet
  else ((Client.connect files pool s).mapError .backend).map fun client =>
    { fleet with pool := fleet.pool.insert s.serverId client }

/-- What is there before the first server is looked at. -/
def unattended (ledger : Ledger Float) : Fleet Float Client where
  ledger
  pool := ∅
  placer := .initial
  events := []

/-- What `loadFleet` comes to. -/
def loaded (files : Files) (config : FleetConfig Float) (ledger : Ledger Float) :
    Except ServiceError (Fleet Float Client) := do
  let fleet ← config.servers.foldlM (taken files config.pool) (unattended ledger)
  fleet.registry.listServers.foldlM (attached files config.pool) fleet

theorem comes_keepLedger (dataDir : String) (ledger : Ledger Float) :
    Work.Comes files (keepLedger dataDir ledger) (.ok ()) := by
  rw [keepLedger]
  split
  · exact fun s hs => ⟨rfl, hs⟩
  · exact Work.comes_pure files ()

theorem comes_takeIn (fleet : Fleet Float Client) (s : ServerConfig Float) :
    Work.Comes files (takeIn dataDir pool fleet s) (taken files pool fleet s) := by
  cases found : fleet.registry.servers.get? s.serverId with
  | some recorded =>
    simp only [takeIn, taken, found]
    split
    · exact Work.comes_then (Work.comes_note files _) (Work.comes_pure files fleet)
    · exact Work.comes_pure files fleet
  | none =>
    simp only [takeIn, taken, found]
    refine Work.comes_disk ?_
    rintro d rfl
    exact Work.comes_map (Work.comes_check _ _) fun _ =>
      Work.comes_then (comes_keepLedger dataDir _)
        (Work.comes_then (Work.comes_note _ _) (Work.comes_pure _ _))

theorem comes_attach (config : FleetConfig Float) (fleet : Fleet Float Client) (s : Server Float) :
    Work.Comes files (attach config fleet s) (attached files config.pool fleet s) := by
  have hclient : ∀ d : Disk, d.files = files → Work.Comes files
      (do
        let client ← .check ((Client.connect d.files config.pool s).mapError .backend)
        return { fleet with pool := fleet.pool.insert s.serverId client } : Work _)
      (((Client.connect files config.pool s).mapError .backend).map fun client =>
        { fleet with pool := fleet.pool.insert s.serverId client }) := by
    rintro d rfl
    exact Work.comes_map (Work.comes_check _ _) fun _ => Work.comes_pure _ _
  rw [attach, attached]
  split
  · exact Work.comes_pure files fleet
  · split
    · exact Work.comes_then (Work.comes_note files _) (Work.comes_disk hclient)
    · exact Work.comes_disk hclient

theorem comes_loadFleet (config : FleetConfig Float) (ledger : Ledger Float) :
    Work.Comes files (loadFleet dataDir config ledger) (loaded files config ledger) := by
  rw [loadFleet, loaded]
  refine Work.comes_bind (Work.comes_foldlM comes_takeIn _ _) fun fleet => ?_
  exact Work.comes_keep (Work.comes_foldlM (comes_attach config) _ fleet) fun f =>
    Work.comes_then (Work.comes_note files _) (Work.comes_pure files f)

/-! ## What the loops leave -/

theorem addServer_of_new {connect : Server Float → Except BackendError Client}
    {c : ServerConfig Float} {client : Client} (connects : connect (.ofConfig c) = .ok client)
    (new : fleet.registry.servers.get? c.serverId = none) :
    Orchestrator.addServer connect c fleet = (.ok (.ofConfig c),
      { (fleet.perform (·.addServer (.ofConfig c))).2 with
        pool := fleet.pool.insert c.serverId client }) := by
  rcases fleet.registry.addServer_cases (.ofConfig c) with ⟨known, -⟩ | ⟨-, h⟩
  · exact absurd known (Bool.eq_false_iff.1 (Table.contains_eq_false_iff.2 new))
  · simp only [Orchestrator.addServer, connects]
    rw [Fleet.perform_eq, h]
    rfl

/-- The first loop fills registry and pool side by side. -/
theorem fills_taken (files : Files) (pool : ClientConfig) :
    Fills ServerConfig.serverId
      (fun c => (Client.connect files pool (.ofConfig c)).toOption.map fun client =>
        (Server.ofConfig c, some client))
      (fun f id => (f.registry.servers.get? id).map fun s => (s, f.pool.get? id))
      (taken files pool) where
  skips f c v hv := by
    obtain ⟨s, hs, -⟩ := Option.map_eq_some_iff.1 hv
    simp only [taken, hs]
  fails f c hv hm := by
    rw [Option.map_eq_none_iff] at hv hm
    cases hconnect : Client.connect files pool (.ofConfig c) with
    | error e =>
      simp only [taken, hv, Orchestrator.addServer, hconnect]
      exact ⟨_, rfl⟩
    | ok client =>
      rw [hconnect] at hm
      cases hm
  puts f c b hv hm := by
    rw [Option.map_eq_none_iff] at hv
    obtain ⟨client, hclient, rfl⟩ := Option.map_eq_some_iff.1 hm
    have hadded := addServer_of_new (eq_ok_of_toOption hclient) hv
    simp only [taken, hv, hadded]
    refine ⟨_, rfl, fun id => ?_⟩
    show ((f.registry.addServer (.ofConfig c)).registry.servers.get? id).map
      (fun s => (s, (f.pool.insert c.serverId client).get? id)) = _
    rw [Registry.servers_addServer hv, Table.get?_insert, Table.get?_insert]
    show (if c.serverId = id then _ else _ : Option _).map _ = _
    split <;> rfl

/-- The second loop fills the pool. -/
theorem fills_attached (files : Files) (pool : ClientConfig) :
    Fills Server.serverId (fun s => (Client.connect files pool s).toOption)
      (fun f : Fleet Float Client => f.pool.get?) (attached files pool) where
  skips f s v hv := by
    rw [attached, if_pos (Table.contains_of_get? hv)]
  fails f s hv hm := by
    rw [attached, if_neg (Bool.eq_false_iff.1 (Table.contains_eq_false_iff.2 hv))]
    cases hconnect : Client.connect files pool s with
    | error e => exact ⟨_, rfl⟩
    | ok client =>
      rw [hconnect] at hm
      cases hm
  puts f s client hv hm := by
    rw [attached, if_neg (Bool.eq_false_iff.1 (Table.contains_eq_false_iff.2 hv)),
      eq_ok_of_toOption hm]
    exact ⟨_, rfl, fun id => Table.get?_insert _ _ _ _⟩

/-- A step of the first loop leaves everything, or takes a server in that was not there. -/
theorem taken_cases {c : ServerConfig Float}
    (h : taken files pool fleet c = .ok fleet') :
    fleet' = fleet ∨ fleet.registry.servers.get? c.serverId = none ∧ ∃ client,
      fleet' = { (fleet.perform (·.addServer (.ofConfig c))).2 with
        pool := fleet.pool.insert c.serverId client } := by
  rw [taken] at h
  split at h
  · cases h
    exact .inl rfl
  · rcases Orchestrator.addServer_done (Client.connect files pool) c fleet with
      ⟨e, hrefused⟩ | ⟨client, -, hnew, hdone⟩
    · rw [hrefused] at h
      cases h
    · rw [hdone] at h
      cases h
      exact .inr ⟨hnew, client, rfl⟩

/-- What the first loop keeps: servers stand under their own ids, only registered servers have a
client, and no workspace changes. -/
structure Orderly (r : Registry Float) (f : Fleet Float Client) : Prop where
  keyed : f.registry.servers.Keyed Server.serverId
  registered : ∀ id, f.registry.servers.get? id = none → f.pool.get? id = none
  workspaces : f.registry.workspaces = r.workspaces

theorem Orderly.taken {r : Registry Float} {c : ServerConfig Float}
    (h : taken files pool fleet c = .ok fleet') (orderly : Orderly r fleet) :
    Orderly r fleet' := by
  rcases taken_cases h with rfl | ⟨hnew, client, rfl⟩
  · exact orderly
  · have hservers := Registry.servers_addServer (s := .ofConfig c) hnew
    refine ⟨?_, fun id hid => ?_, ?_⟩
    · show ((fleet.registry.addServer (.ofConfig c)).registry.servers).Keyed _
      rw [hservers]
      exact orderly.keyed.insert rfl
    · change ((fleet.registry.addServer (.ofConfig c)).registry.servers).get? id = none at hid
      show (fleet.pool.insert c.serverId client).get? id = none
      rw [hservers, Table.get?_insert] at hid
      rw [Table.get?_insert]
      change (if c.serverId = id then _ else _) = _ at hid
      split at hid
      · cases hid
      · next hne =>
        rw [if_neg hne]
        exact orderly.registered id hid
    · show (fleet.registry.addServer (.ofConfig c)).registry.workspaces = _
      rw [← orderly.workspaces]
      rcases fleet.registry.addServer_cases (.ofConfig c) with ⟨-, h⟩ | ⟨-, h⟩
      · rw [h, Registry.unchanged]
      · rw [h, Registry.changed]

/-- Whatever is configured, the first loop leaves an orderly fleet. -/
theorem orderly_of_taken (keyed : ledger.registry.servers.Keyed Server.serverId)
    (run : config.servers.foldlM (taken files pool) (unattended ledger) = .ok fleet) :
    Orderly ledger.registry fleet :=
  foldlM_keeps (P := Orderly ledger.registry) (fun _ _ _ _ => Orderly.taken) run
    ⟨keyed, fun _ _ => rfl, rfl⟩

/-- The second loop makes clients and nothing else. -/
theorem ledger_attached {s : Server Float}
    (h : attached files pool fleet s = .ok fleet') : fleet'.ledger = fleet.ledger := by
  rw [attached] at h
  split at h
  · cases h
    rfl
  · obtain ⟨client, -, rfl⟩ := map_eq_ok.1 h
    rfl

section Attaching

variable {r : Registry Float} (orderly : Orderly r fleet)

include orderly

/-- The second loop comes to its end if and only if clients can be made for the servers that have
none. -/
theorem exists_attached :
    (∃ f', fleet.registry.listServers.foldlM (attached files pool) fleet = .ok f') ↔
      ∀ id s, fleet.registry.servers.get? id = some s → fleet.pool.get? id = none →
        ∃ client, Client.connect files pool s = .ok client := by
  have hnodup : (fleet.registry.listServers.map Server.serverId).Nodup := by
    rw [Registry.listServers, orderly.keyed.keys_eq]
    exact Table.keys_nodup _
  rw [(fills_attached files pool).exists_foldlM hnodup]
  constructor
  · intro h id s hs hnone
    obtain ⟨client, hclient⟩ := h s (Table.mem_values_iff.2 ⟨id, hs⟩)
      (by rw [orderly.keyed id s hs, hnone])
    exact ⟨client, eq_ok_of_toOption hclient⟩
  · intro h s hs hnone
    obtain ⟨id, hid⟩ := Table.mem_values_iff.1 hs
    rw [orderly.keyed id s hid] at hnone
    obtain ⟨client, hclient⟩ := h id s hid hnone
    exact ⟨client, by rw [hclient]; rfl⟩

variable (run : fleet.registry.listServers.foldlM (attached files pool) fleet = .ok fleet')

include run

omit orderly in
theorem ledger_of_attached : fleet'.ledger = fleet.ledger :=
  foldlM_keeps (P := fun f => f.ledger = fleet.ledger)
    (fun _ _ _ _ hstep hsame => (ledger_attached hstep).trans hsame) run rfl

theorem get?_of_attached (id : String) : fleet'.pool.get? id = (fleet.pool.get? id).or
    ((fleet.registry.servers.get? id).bind fun s => (Client.connect files pool s).toOption) := by
  rw [← orderly.keyed.find?_values]
  exact (fills_attached files pool).view_foldlM run id

/-- Exactly the registered servers have a client then. -/
theorem contains_of_attached (id : String) :
    fleet'.pool.contains id = fleet'.registry.servers.contains id := by
  have hregistry : fleet'.registry = fleet.registry :=
    congrArg Ledger.registry (ledger_of_attached run)
  rw [Table.contains, Table.contains, get?_of_attached orderly run, hregistry]
  cases hs : fleet.registry.servers.get? id with
  | none =>
    rw [orderly.registered id hs]
    rfl
  | some s =>
    cases hpool : fleet.pool.get? id with
    | some client => rw [Option.some_or, Option.isSome_some, Option.isSome_some]
    | none =>
      obtain ⟨client, hclient⟩ := (exists_attached orderly).1 ⟨fleet', run⟩ id s hs hpool
      rw [Option.none_or, Option.bind_some, hclient]
      rfl

end Attaching

theorem loaded_eq_ok : loaded files config ledger = .ok fleet' ↔
    ∃ f, config.servers.foldlM (taken files config.pool) (unattended ledger) = .ok f ∧
      f.registry.listServers.foldlM (attached files config.pool) f = .ok fleet' :=
  bind_eq_ok

/-! ## The run of a start -/

/-- The directory that a start keeps its store in. -/
def chosenDir (dataDir : Option String) (config : FleetConfig Float) : String :=
  (dataDir.or config.dataDir).getD defaultDataDir

/-- A start reads this configuration, has these files once its directory is there, and opens this
store. -/
structure Finds (disk : Disk) (configPath : String) (dataDir : Option String)
    (config : FleetConfig Float) (files : Files) (store : Store Float) : Prop where
  loads : FleetConfig.load disk.files configPath = .ok config
  makes : disk.files.createDirectory (chosenDir dataDir config) = .ok files
  opens : ({ disk with files } : Disk).openStore (joinPath (chosenDir dataDir config) storeName) =
    some store

variable {disk : Disk} {configPath : String} {dataDir : Option String} {store : Store Float}

/-- A store that opens is kept as opening leaves it. -/
theorem run_openLedger {dir : String} {s : Session} {kept : Store Float}
    (makes : s.disk.files.createDirectory dir = .ok files)
    (opens : ({ s.disk with files } : Disk).openStore (joinPath dir storeName) = some store)
    (reads : Ledger.ofStore store = .ok ledger) (keeps : ledger.store = some kept) :
    ((openLedger dir).run.run s).1 = .ok ledger ∧
      ((openLedger dir).run.run s).2.disk =
        ({ s.disk with files } : Disk).saveStore (joinPath dir storeName) kept := by
  simp only [openLedger, Work.run_bind, Work.run_disk, Work.run_check, makes, Except.mapError,
    Work.run_onDisk, opens, Option.elim_some, Work.run_note, reads, keepLedger, keeps]
  exact ⟨rfl, rfl⟩

theorem openLedger_of_unread {dir : String} {s : Session} {e : RegistryError}
    (makes : s.disk.files.createDirectory dir = .ok files)
    (opens : ({ s.disk with files } : Disk).openStore (joinPath dir storeName) = some store)
    (reads : Ledger.ofStore store = .error e) :
    ((openLedger dir).run.run s).1 = .error (.registry e) ∧
      ((openLedger dir).run.run s).2.disk = { s.disk with files } := by
  simp only [openLedger, Work.run_bind, Work.run_disk, Work.run_check, makes, Except.mapError,
    Work.run_onDisk, opens, Option.elim_some, Work.run_note, reads, and_self]

theorem startup_of_unread {e : ServiceError} (h : FleetConfig.load disk.files configPath = .error e)
    (dataDir : Option String) :
    ((startup configPath dataDir).carryOut disk).1 = .error e := by
  simp only [startup, Work.carryOut, Work.run_bind, Work.run_note, Work.run_disk, Work.run_check, h]

theorem startup_of_finds (found : Finds disk configPath dataDir config files store)
    (reads : Ledger.ofStore store = .ok ledger) :
    ((startup configPath dataDir).carryOut disk).1 =
      (loaded files config ledger).map fun fleet =>
        ⟨chosenDir dataDir config, config, fleet⟩ := by
  obtain ⟨c, -, hkept⟩ := Ledger.ofStore_eq_ok.1 reads
  obtain ⟨hresult, hdisk⟩ := run_openLedger (s := ⟨disk, [.starting configPath]⟩) found.makes
    found.opens reads (congrArg Ledger.store hkept)
  have hfiles := congrArg Disk.files hdisk
  have hloaded : ((loadFleet (chosenDir dataDir config) config ledger).run.run _).1 =
      loaded files config ledger := (comes_loadFleet config ledger _ hfiles).1
  simp only [startup, Work.carryOut, Work.run_bind, Work.run_note, Work.run_disk, Work.run_check,
    found.loads, List.nil_append]
  simp only [chosenDir] at hresult hloaded ⊢
  rw [hresult]
  dsimp only
  rw [hloaded]
  cases loaded files config ledger <;> rfl

end Service
end WorkspaceFleet
