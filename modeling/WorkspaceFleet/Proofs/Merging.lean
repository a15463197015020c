import WorkspaceFleet.Proofs.Starting

/-!
# WorkspaceFleet.Proofs.Merging

A start over a store and a configuration: when it comes to its end, and what it leaves.

After the first loop every id has one of three origins: a server is recorded and has no client yet,
or is only configured and has one, or there is none. `Service.exists_loaded` and
`Service.merged_of_loaded` follow from `Service.Origin`, whatever store was opened; that the
configured ids differ is all they need of the configuration.

`Service.start_merges` puts this beside the check of a configuration, which connects the configured
servers and opens no store.
-/

namespace WorkspaceFleet

/-! ## A registry that was opened -/

namespace Registry

variable {κ : Type} [Quantity κ]

omit [Quantity κ] in
theorem keyed_loaded (servers : List (Server κ)) (workspaces : List (Workspace κ)) :
    (loaded servers workspaces).servers.Keyed Server.serverId := by
  show (Table.ofList _).Keyed _
  rw [Table.ofList, List.foldl_map]
  refine List.foldlRecOn servers _ (Table.Keyed.nothing _) fun t keyed s _ => keyed.insert ?_
  rw [reopened]
  split <;> rfl

/-- Every store opens to servers that stand under their own ids. -/
theorem keyed_of_load {store : Store κ} {c : Change κ (List UsageCorrection)}
    (h : load store = .ok c) : c.registry.servers.Keyed Server.serverId := by
  obtain ⟨servers, -, workspaces, -, _, -, rfl⟩ := load_eq_ok.1 h
  exact keyed_reconcile (keyed_loaded servers workspaces)

end Registry

theorem Ledger.keyed_of_ofStore {store : Store Float} {ledger : Ledger Float}
    (h : Ledger.ofStore store = .ok ledger) : ledger.registry.servers.Keyed Server.serverId := by
  obtain ⟨c, hload, h⟩ := bind_eq_ok.1 h
  rw [pure_eq_ok.1 h]
  exact Registry.keyed_of_load hload

namespace Service

variable {files : Files} {config : FleetConfig Float} {ledger : Ledger Float}
  {fleet : Fleet Float Client}

/-! ## Where servers come from -/

/-- Where the server under an id comes from that the first loop leaves. -/
inductive Origin (files : Files) (config : FleetConfig Float) (r : Registry Float)
    (f : Fleet Float Client) (id : String) : Prop where
  | recorded (s : Server Float) (before : r.servers.get? id = some s)
    (after : f.registry.servers.get? id = some s) (unattended : f.pool.get? id = none)
  | configured (c : ServerConfig Float) (client : Client) (before : r.servers.get? id = none)
    (found : config.servers.find? (·.serverId == id) = some c)
    (connects : Client.connect files config.pool (.ofConfig c) = .ok client)
    (after : f.registry.servers.get? id = some (.ofConfig c))
    (attended : f.pool.get? id = some client)
  | absent (before : r.servers.get? id = none)
    (found : config.servers.find? (·.serverId == id) = none)
    (after : f.registry.servers.get? id = none) (unattended : f.pool.get? id = none)

theorem origin (keyed : ledger.registry.servers.Keyed Server.serverId)
    (nodup : (config.servers.map ServerConfig.serverId).Nodup)
    (run : config.servers.foldlM (taken files config.pool) (unattended ledger) = .ok fleet)
    (id : String) : Origin files config ledger.registry fleet id := by
  have hview := (fills_taken files config.pool).view_foldlM run id
  have hmakes := ((fills_taken files config.pool).exists_foldlM nodup).1 ⟨fleet, run⟩
  have horderly := orderly_of_taken keyed run
  change (fleet.registry.servers.get? id).map (fun s => (s, fleet.pool.get? id)) =
    ((ledger.registry.servers.get? id).map fun s => (s, none)).or _ at hview
  change ∀ c ∈ config.servers,
    (ledger.registry.servers.get? c.serverId).map (fun s => (s, (none : Option Client))) = none →
      _ at hmakes
  cases hbefore : ledger.registry.servers.get? id with
  | some s =>
    rw [hbefore, Option.map_some, Option.some_or, Option.map_eq_some_iff] at hview
    obtain ⟨s', hafter, heq⟩ := hview
    obtain ⟨rfl, hpool⟩ := Prod.mk.inj heq
    exact .recorded s' hbefore hafter hpool
  | none =>
    rw [hbefore, Option.map_none, Option.none_or] at hview
    cases hfound : config.servers.find? (·.serverId == id) with
    | none =>
      rw [hfound, Option.bind_none, Option.map_eq_none_iff] at hview
      exact .absent hbefore hfound hview (horderly.registered id hview)
    | some c =>
      have hid : c.serverId = id := by simpa using List.find?_some hfound
      obtain ⟨b, hb⟩ := hmakes c (List.mem_of_find?_eq_some hfound) (by rw [hid, hbefore]; rfl)
      rw [hfound, Option.bind_some, hb, Option.map_eq_some_iff] at hview
      obtain ⟨s', hafter, rfl⟩ := hview
      obtain ⟨client, hclient, heq⟩ := Option.map_eq_some_iff.1 hb
      obtain ⟨rfl, hpool⟩ := Prod.mk.inj heq
      exact .configured c client hbefore hfound (eq_ok_of_toOption hclient) hafter hpool.symm

namespace Origin

variable {r : Registry Float} {f : Fleet Float Client} {id : String}

theorem contains_eq (h : Origin files config r f id) : f.registry.servers.contains id =
    (r.servers.contains id || config.servers.any (·.serverId == id)) := by
  cases h with
  | recorded s before after =>
    rw [Table.contains_of_get? after, Table.contains_of_get? before, Bool.true_or]
  | configured c client before found connects after =>
    rw [Table.contains_of_get? after, Table.contains_eq_false_iff.2 before, Bool.false_or]
    exact (List.any_eq_true.2 ⟨c, List.mem_of_find?_eq_some found, List.find?_some found⟩).symm
  | absent before found after =>
    rw [Table.contains_eq_false_iff.2 after, Table.contains_eq_false_iff.2 before, Bool.false_or]
    exact (List.any_eq_false.2 (List.find?_eq_none.1 found)).symm

/-- What is recorded stays, and has no client yet. -/
theorem of_recorded (h : Origin files config r f id) {s : Server Float}
    (hs : r.servers.get? id = some s) :
    f.registry.servers.get? id = some s ∧ f.pool.get? id = none := by
  cases h with
  | recorded s' before after unattended =>
    cases hs.symm.trans before
    exact ⟨after, unattended⟩
  | configured c client before => cases hs.symm.trans before
  | absent before => cases hs.symm.trans before

/-- Each id is configured once, so no other server stands under it. -/
theorem of_configured {c : ServerConfig Float} (h : Origin files config r f c.serverId)
    (nodup : (config.servers.map ServerConfig.serverId).Nodup) (hc : c ∈ config.servers)
    (new : r.servers.get? c.serverId = none) :
    f.registry.servers.get? c.serverId = some (.ofConfig c) := by
  cases h with
  | recorded s before => cases new.symm.trans before
  | configured c' client before found connects after =>
    have hid : c'.serverId = c.serverId := by simpa using List.find?_some found
    rw [← List.inj_on_of_nodup_map nodup (List.mem_of_find?_eq_some found) hc hid]
    exact hid ▸ after
  | absent before found => exact absurd (beq_self_eq_true _) (List.find?_eq_none.1 found c hc)

/-- A client that is there already is the one that would be made. -/
theorem client_eq (h : Origin files config r f id) :
    (f.pool.get? id).or ((f.registry.servers.get? id).bind fun s =>
        (Client.connect files config.pool s).toOption) =
      (f.registry.servers.get? id).bind fun s =>
        (Client.connect files config.pool s).toOption := by
  cases h with
  | recorded s before after unattended => rw [unattended, Option.none_or]
  | configured c client before found connects after attended =>
    rw [attended, after, Option.some_or, Option.bind_some, connects]
    rfl
  | absent before found after unattended => rw [unattended, Option.none_or]

end Origin

/-! ## When servers load, and to what -/

/-- Clients can be made for all servers that a start comes to: for those that are recorded as they
are, and for those that are only configured. -/
structure Connects (files : Files) (config : FleetConfig Float) (r : Registry Float) : Prop where
  recorded : ∀ id s, r.servers.get? id = some s →
    ∃ client, Client.connect files config.pool s = .ok client
  configured : ∀ c ∈ config.servers, r.servers.get? c.serverId = none →
    ∃ client, Client.connect files config.pool (.ofConfig c) = .ok client

/-- What a start leaves of the registry that it opened. -/
structure Merged (files : Files) (config : FleetConfig Float) (r : Registry Float)
    (f : Fleet Float Client) : Prop where
  /-- The registered servers are those that were recorded and those that are configured. -/
  ids : ∀ id, f.registry.servers.contains id =
    (r.servers.contains id || config.servers.any (·.serverId == id))
  /-- What is recorded stays, whatever the configuration declares. -/
  recorded : ∀ id s, r.servers.get? id = some s → f.registry.servers.get? id = some s
  configured : ∀ c ∈ config.servers, r.servers.get? c.serverId = none →
    f.registry.servers.get? c.serverId = some (.ofConfig c)
  /-- Exactly the registered servers have a client, and it is made of what is registered. -/
  clients : ∀ id, f.pool.get? id = (f.registry.servers.get? id).bind fun s =>
    (Client.connect files config.pool s).toOption
  attended : f.Attended
  workspaces : f.registry.workspaces = r.workspaces

/-- **When servers load.** They do if and only if clients can be made for all of them. -/
theorem exists_loaded (keyed : ledger.registry.servers.Keyed Server.serverId)
    (nodup : (config.servers.map ServerConfig.serverId).Nodup) :
    (∃ fleet, loaded files config ledger = .ok fleet) ↔
      Connects files config ledger.registry := by
  have htaken := (fills_taken files config.pool).exists_foldlM (f := unattended ledger) nodup
  constructor
  · rintro ⟨fleet, hloaded⟩
    obtain ⟨f, hf, hfleet⟩ := loaded_eq_ok.1 hloaded
    refine ⟨fun id s hs => ?_, fun c hc hnew => ?_⟩
    · obtain ⟨hafter, hunattended⟩ := (origin keyed nodup hf id).of_recorded hs
      exact (exists_attached (orderly_of_taken keyed hf)).1 ⟨fleet, hfleet⟩ id s hafter hunattended
    · obtain ⟨b, hb⟩ := htaken.1 ⟨f, hf⟩ c hc (Option.map_eq_none_iff.2 hnew)
      obtain ⟨client, hclient, -⟩ := Option.map_eq_some_iff.1 hb
      exact ⟨client, eq_ok_of_toOption hclient⟩
  · intro connects
    obtain ⟨f, hf⟩ := htaken.2 fun c hc hnew => by
      obtain ⟨client, hclient⟩ := connects.configured c hc (Option.map_eq_none_iff.1 hnew)
      exact ⟨_, by rw [hclient]; rfl⟩
    have horderly := orderly_of_taken keyed hf
    obtain ⟨fleet, hfleet⟩ := (exists_attached horderly).2 fun id s hs hnone => by
      cases origin keyed nodup hf id with
      | recorded s' before after =>
        cases hs.symm.trans after
        exact connects.recorded id s before
      | configured c client before found connected after attended =>
        cases hnone.symm.trans attended
      | absent before found after => cases hs.symm.trans after
    exact ⟨fleet, loaded_eq_ok.2 ⟨f, hf, hfleet⟩⟩

/-- **What servers load to.** -/
theorem merged_of_loaded (keyed : ledger.registry.servers.Keyed Server.serverId)
    (nodup : (config.servers.map ServerConfig.serverId).Nodup)
    (h : loaded files config ledger = .ok fleet) : Merged files config ledger.registry fleet := by
  obtain ⟨f, hf, hfleet⟩ := loaded_eq_ok.1 h
  have horigin := origin keyed nodup hf
  have horderly := orderly_of_taken keyed hf
  have hregistry : fleet.registry = f.registry :=
    congrArg Ledger.registry (ledger_of_attached hfleet)
  refine ⟨fun id => ?_, fun id s hs => ?_, fun c hc hnew => ?_, fun id => ?_,
    contains_of_attached horderly hfleet, ?_⟩
  · rw [hregistry]
    exact (horigin id).contains_eq
  · rw [hregistry]
    exact ((horigin id).of_recorded hs).1
  · rw [hregistry]
    exact (horigin c.serverId).of_configured nodup hc hnew
  · rw [get?_of_attached horderly hfleet, hregistry]
    exact (horigin id).client_eq
  · rw [hregistry, horderly.workspaces]

/-! ## Checking a configuration -/

theorem exists_checkConfig {path : String} : (∃ n, checkConfig files path = .ok n) ↔
    ∃ config, FleetConfig.load files path = .ok config ∧
      ∀ c ∈ config.servers,
        ∃ client, Client.connect files config.pool (.ofConfig c) = .ok client := by
  have hloop : ∀ config : FleetConfig Float,
      (forIn config.servers PUnit.unit fun c _ => do
        let _ ← (Client.connect files config.pool (.ofConfig c)).mapError (.server c.serverId)
        pure (ForInStep.yield PUnit.unit)) = (.ok PUnit.unit : Except ServiceError PUnit) ↔
      ∀ c ∈ config.servers,
        ∃ client, Client.connect files config.pool (.ofConfig c) = .ok client := fun config => by
    simp only [forIn_eq_ok, mapError_eq_ok]
  rw [checkConfig]
  simp only [bind_eq_ok, pure_eq_ok]
  constructor
  · rintro ⟨n, config, hload, _, hforIn, -⟩
    exact ⟨config, hload, (hloop config).1 hforIn⟩
  · rintro ⟨config, hload, hall⟩
    exact ⟨_, config, hload, _, (hloop config).2 hall, rfl⟩

/-! ## Files that stay -/

/-- The certificates and the key of a server are read alike. -/
def SameCertificates (files files' : Files) (c : ServerConfig Float) : Prop :=
  ∀ named, c.transport.files? = some named →
    ∀ path ∈ [named.authorityPath, named.certificatePath, named.keyPath],
      files'.read path = files.read path

theorem SameCertificates.connect_eq {files' : Files} {c : ServerConfig Float}
    (same : SameCertificates files files' c) (pool : ClientConfig) :
    Client.connect files' pool (.ofConfig c) = Client.connect files pool (.ofConfig c) := by
  have hload : ∀ named, (Server.ofConfig c).transport.files? = some named →
      CertificateBundle.load files' named = CertificateBundle.load files named := by
    intro named hnamed
    have hread : ∀ path ∈ [named.authorityPath, named.certificatePath, named.keyPath],
        CertificateBundle.readFile files' path = CertificateBundle.readFile files path :=
      fun path hpath => by
        rw [CertificateBundle.readFile, CertificateBundle.readFile, same named hnamed path hpath]
    rw [CertificateBundle.load, CertificateBundle.load, hread _ (by simp), hread _ (by simp),
      hread _ (by simp)]
  rw [Client.connect, Client.connect]
  cases hnamed : (Server.ofConfig c).transport.files? with
  | none => rfl
  | some named => simp only [hload named hnamed]

theorem load_eq_of_read {files' : Files} {path : String}
    (same : files'.read path = files.read path) :
    FleetConfig.load files' path = FleetConfig.load files path := by
  rw [FleetConfig.load, FleetConfig.load, Files.readText, Files.readText, same]

theorem nodup_of_load {path : String} (h : FleetConfig.load files path = .ok config) :
    (config.servers.map ServerConfig.serverId).Nodup := by
  obtain ⟨text, -, hparse⟩ := bind_eq_ok.1 h
  exact (FleetConfig.accepted_of_parse (mapError_eq_ok.1 hparse)).2

/-! ## A start beside a check -/

/-- Over a registry without servers a start comes to its end if and only if clients can be made for
what is configured. -/
theorem exists_loaded_empty (nodup : (config.servers.map ServerConfig.serverId).Nodup)
    {store : Option (Store Float)} :
    (∃ fleet, loaded files config ⟨.empty, store⟩ = .ok fleet) ↔
      ∀ c ∈ config.servers,
        ∃ client, Client.connect files config.pool (.ofConfig c) = .ok client := by
  rw [exists_loaded (Table.Keyed.nothing _) nodup]
  exact ⟨fun h c hc => h.configured c hc rfl, fun h => ⟨nofun, fun c hc _ => h c hc⟩⟩

/-- **A check and a start agree, and a start merges.** Where the configuration and the certificates
of its servers are read alike, a configuration passes the check if and only if a start over a store
that holds nothing comes to its end. Over any store that opens, a start comes to its end if clients
can be made for the servers of store and configuration. It leaves the registry that it opened, with
the servers that are only configured added to it, and a client for each. -/
theorem start_merges :
    (∀ (checked : Files) (disk : Disk) (configPath : String) (dataDir : Option String),
      disk.files.read configPath = checked.read configPath →
      (∀ config, FleetConfig.load disk.files configPath = .ok config →
        ∃ files, Finds disk configPath dataDir config files .empty ∧
          ∀ c ∈ config.servers, SameCertificates checked files c) →
      ((∃ n, checkConfig checked configPath = .ok n) ↔
        ∃ running, ((startup configPath dataDir).carryOut disk).1 = .ok running)) ∧
    ∀ (disk : Disk) (configPath : String) (dataDir : Option String) (config : FleetConfig Float)
      (files : Files) (store : Store Float) (ledger : Ledger Float),
      Finds disk configPath dataDir config files store →
      Ledger.ofStore store = .ok ledger →
      Connects files config ledger.registry →
      ∃ running, ((startup configPath dataDir).carryOut disk).1 = .ok running ∧
        running.config = config ∧ Merged files config ledger.registry running.fleet := by
  constructor
  · intro checked disk configPath dataDir sameConfig ready
    rw [exists_checkConfig, ← load_eq_of_read sameConfig]
    cases hload : FleetConfig.load disk.files configPath with
    | error e =>
      rw [startup_of_unread hload]
      exact ⟨nofun, nofun⟩
    | ok config =>
      obtain ⟨files, hfinds, hsame⟩ := ready config hload
      have hclients : ∀ c ∈ config.servers,
          Client.connect files config.pool (.ofConfig c) =
            Client.connect checked config.pool (.ofConfig c) :=
        fun c hc => (hsame c hc).connect_eq config.pool
      rw [startup_of_finds hfinds Ledger.ofStore_empty, exists_map_eq_ok,
        exists_loaded_empty (nodup_of_load hload)]
      constructor
      · rintro ⟨_, hconfig, hall⟩ c hc
        cases hconfig
        exact (hclients c hc).symm ▸ hall c hc
      · exact fun hall => ⟨config, rfl, fun c hc => hclients c hc ▸ hall c hc⟩
  · intro disk configPath dataDir config files store ledger hfinds hopens hconnects
    have hkeyed := Ledger.keyed_of_ofStore hopens
    have hnodup := nodup_of_load hfinds.loads
    obtain ⟨fleet, hloaded⟩ := (exists_loaded hkeyed hnodup).2 hconnects
    rw [startup_of_finds hfinds hopens, hloaded]
    exact ⟨_, rfl, rfl, merged_of_loaded hkeyed hnodup hloaded⟩

end Service

/-! ## A start over a recorded server -/

namespace SampleStart

open SampleConfig Service

/-- A configuration with one server of sixteen cores, and a data directory. -/
def files : Files :=
  ⟨[(["deskgrid.toml"], .file (Text.Utf8.encode (text "16.0"))), (["data"], .directory)]⟩

def place : List String := ["data", storeName]

/-- The server that is configured, recorded with eight cores. -/
def recorded : Server Float :=
  .ofConfig {
    serverId := "ws-1", name := "", host := "127.0.0.1", port := 1, transport := .plain
    totalCpuCores := 8, totalMemoryMb := 32768, totalDiskGb := 500, maxWorkspaces := 6
    labels := ∅ }

def stored : Store Float := Store.empty.apply (.putServer recorded)

theorem steps_config : Files.steps "deskgrid.toml" = ["deskgrid.toml"] := by
  rw [Files.steps, if_neg (by decide +kernel)]
  simp +decide [String.splitOn, String.splitOnAux]

theorem steps_data : Files.steps "data" = ["data"] := by
  rw [Files.steps, if_neg (by decide +kernel)]
  simp +decide [String.splitOn, String.splitOnAux]

theorem place_store : Files.place (joinPath "data" storeName) = place := by
  rw [show joinPath "data" storeName = "data/deskgrid.redb" from rfl, Files.place, Files.steps,
    if_neg (by decide +kernel)]
  simp +decide [String.splitOn, String.splitOnAux, place, storeName, Files.next]

theorem readText_files : files.readText "deskgrid.toml" = .ok (text "16.0") := by
  have hfile : Files.wantsDirectory "deskgrid.toml" = false := by
    simp +decide [Files.wantsDirectory, String.splitOn, String.splitOnAux]
  have hbytes : Text.Utf8.decode? (Text.Utf8.encode (text "16.0")) = some (text "16.0") := by
    decide +kernel
  have hread : files.read "deskgrid.toml" = .ok (Text.Utf8.encode (text "16.0")) := by
    have hwalk : files.walk [] ["deskgrid.toml"] = .ok ["deskgrid.toml"] := rfl
    have hentry : files.entry? ["deskgrid.toml"] =
        some (.file (Text.Utf8.encode (text "16.0"))) := rfl
    rw [Files.read, if_neg (by decide), steps_config, hwalk]
    simp only [bind, Except.bind, pure, Except.pure, hentry, hfile]
    rfl
  rw [Files.readText, hread]
  simp only [bind, Except.bind, hbytes]
  rfl

theorem finds {config : FleetConfig Float}
    (loads : FleetConfig.load files "deskgrid.toml" = .ok config)
    (stores : List (List String × Store Float)) {store : Store Float}
    (opens : (⟨files, stores⟩ : Disk).openStore (joinPath "data" storeName) = some store) :
    Finds ⟨files, stores⟩ "deskgrid.toml" (some "data") config files store := by
  refine ⟨loads, ?_, opens⟩
  show files.createDirectory "data" = .ok files
  rw [Files.createDirectory, steps_data]
  rfl

theorem opens_empty : (⟨files, []⟩ : Disk).openStore (joinPath "data" storeName) = some .empty := by
  rw [Disk.openStore, place_store]
  rfl

theorem opens_stored : (⟨files, [(place, stored)]⟩ : Disk).openStore (joinPath "data" storeName) =
    some stored := by
  rw [Disk.openStore, place_store]
  rfl

theorem runs : ∃ config ledger s, FleetConfig.load files "deskgrid.toml" = .ok config ∧
    Ledger.ofStore stored = .ok ledger ∧
    (∀ c ∈ config.servers, ∃ client,
      Client.connect files config.pool (.ofConfig c) = .ok client) ∧
    (∀ id s, ledger.registry.servers.get? id = some s →
      ∃ client, Client.connect files config.pool s = .ok client) ∧
    ledger.registry.servers.get? "ws-1" = some s ∧ s.totalCpuCores = 8 := by
  have hrun : ((FleetConfig.parse (text "16.0")).toOption.bind fun config =>
      (Ledger.ofStore stored).toOption.bind fun ledger =>
        (ledger.registry.servers.get? "ws-1").map fun s =>
          (s.totalCpuCores,
            (config.servers.map Server.ofConfig ++ ledger.registry.servers.values).all fun s =>
              (Client.connect files config.pool s).isOk)) = some (8, true) := by
    decide +kernel
  obtain ⟨config, hconfig, hrun⟩ := Option.bind_eq_some_iff.1 hrun
  obtain ⟨ledger, hledger, hrun⟩ := Option.bind_eq_some_iff.1 hrun
  obtain ⟨s, hs, hrun⟩ := Option.map_eq_some_iff.1 hrun
  obtain ⟨hcores, hall⟩ := Prod.mk.inj hrun
  have hconnects : ∀ s ∈ config.servers.map Server.ofConfig ++ ledger.registry.servers.values,
      ∃ client, Client.connect files config.pool s = .ok client := by
    intro s hs
    have hok := List.all_eq_true.1 hall s hs
    cases hclient : Client.connect files config.pool s with
    | error e =>
      rw [hclient] at hok
      cases hok
    | ok client => exact ⟨client, rfl⟩
  refine ⟨config, ledger, s, ?_, eq_ok_of_toOption hledger, fun c hc => ?_, fun id s hs => ?_,
    hs, hcores⟩
  · rw [FleetConfig.load]
    exact bind_eq_ok.2 ⟨text "16.0", mapError_eq_ok.2 readText_files,
      mapError_eq_ok.2 (eq_ok_of_toOption hconfig)⟩
  · exact hconnects _ (List.mem_append_left _ (List.mem_map_of_mem hc))
  · exact hconnects s (List.mem_append_right _ (Table.mem_values_iff.2 ⟨id, hs⟩))

end SampleStart

open SampleStart Service in
/-- Sixteen cores are configured and eight recorded: the check passes, a start over no store comes
to its end, and a start over what is recorded leaves eight. -/
theorem start_keeps_eight : ∃ config running running' s,
    FleetConfig.load files "deskgrid.toml" = .ok config ∧
    (∃ n, checkConfig files "deskgrid.toml" = .ok n) ∧
    ((startup "deskgrid.toml" (some "data")).carryOut ⟨files, []⟩).1 = .ok running ∧
    ((startup "deskgrid.toml" (some "data")).carryOut ⟨files, [(place, stored)]⟩).1 =
      .ok running' ∧
    running'.fleet.registry.servers.get? "ws-1" = some s ∧ s.totalCpuCores = 8 := by
  obtain ⟨config, ledger, s, hload, hopens, hconfigured, hrecorded, hs, hcores⟩ := runs
  have hchecked := exists_checkConfig.2 ⟨config, hload, hconfigured⟩
  obtain ⟨running, hrunning⟩ := (start_merges.1 files ⟨files, []⟩ "deskgrid.toml" (some "data") rfl
    fun config' hload' => ⟨files, finds hload' [] opens_empty, fun _ _ _ _ _ _ => rfl⟩).1 hchecked
  obtain ⟨running', hrunning', -, hmerged⟩ := start_merges.2 _ _ _ config files stored ledger
    (finds hload _ opens_stored) hopens ⟨hrecorded, fun c hc _ => hconfigured c hc⟩
  exact ⟨config, running, running', s, hload, hchecked, hrunning, hrunning',
    hmerged.recorded _ _ hs, hcores⟩

end WorkspaceFleet
