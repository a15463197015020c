import WorkspaceFleet.Proofs.Recovery
import WorkspaceFleet.Service

/-!
# WorkspaceFleet.Proofs.Registering

What becomes of the servers of a configuration when their store is opened again.

Checking a configuration makes sure that its servers can be registered: their ids differ and their
whole numbers fit their words (`accepted_of_parse`), so every one of them is taken in and has a row
(`addServers_ofConfigs`). It does not make sure that they can be read again. The cores of a server
are compared with zero, which does not refuse `nan` or `inf`, and there are finite numbers whose
decimal reads back as another. `FleetConfig.survives_iff` says what follows: the store opens if and
only if the cores of every server are readable, and then the servers are back with these numbers as
reading gives them. `lost_not_a_number` is a configuration that is accepted and lost.
-/

namespace WorkspaceFleet

variable {κ χ : Type}

/-! ## What is accepted -/

theorem Document.lt_of_asNat {limit n : Nat} {d : Document κ} (h : d.asNat limit = .ok n) :
    n < limit := by
  cases d with
  | int m =>
    cases m with
    | ofNat m =>
      rw [asNat] at h
      split at h
      · next hlt =>
        cases h
        exact hlt
      · cases h
    | negSucc m => cases h
  | _ => cases h

theorem Document.lt_of_field {fields : List (String × Document κ)} {name : String} {limit n : Nat}
    (h : field fields name (asNat limit) = .ok n) : n < limit := by
  rw [field] at h
  split at h
  · exact lt_of_asNat h
  · cases h

variable [Quantity κ]

theorem ServerConfig.inRange_of_decode {d : Document κ} {c : ServerConfig κ}
    (h : decode d = .ok c) : c.InRange := by
  simp only [decode, bind_eq_ok, pure_eq_ok] at h
  obtain ⟨fs, -, id, -, name, -, host, -, port, hport, transport, -, cores, -, memory, hmemory,
    disk, hdisk, slots, hslots, labels, -, rfl⟩ := h
  exact ⟨Document.lt_of_field hport, Document.lt_of_field hmemory, Document.lt_of_field hdisk,
    Document.lt_of_field hslots⟩

namespace FleetConfig

/-- Reading a field of a configuration. -/
theorem inRange_of_decodeField (c : FleetConfig κ) (e : String × Document κ) (c' : FleetConfig κ)
    (h : decodeField c e = .ok c') (range : ∀ s ∈ c.servers, s.InRange) :
    ∀ s ∈ c'.servers, s.InRange := by
  unfold decodeField at h
  split at h
  · next d =>
    obtain ⟨dir, -, hc⟩ := bind_eq_ok.1 h
    cases hc
    exact range
  · next d =>
    obtain ⟨monitor, -, hc⟩ := bind_eq_ok.1 h
    cases hc
    exact range
  · next d =>
    obtain ⟨pool, -, hc⟩ := bind_eq_ok.1 h
    cases hc
    exact range
  · next d =>
    obtain ⟨servers, hservers, hc⟩ := bind_eq_ok.1 h
    cases hc
    cases d with
    | list items => exact forall_of_mapM_eq_ok (fun _ _ => ServerConfig.inRange_of_decode) hservers
    | _ => cases hservers
  · cases h
    exact range

theorem inRange_of_decode {d : Document κ} {c : FleetConfig κ} (h : decode d = .ok c) :
    ∀ s ∈ c.servers, s.InRange := by
  obtain ⟨fields, -, hfields⟩ := bind_eq_ok.1 h
  exact foldlM_keeps (fun e _ c c' => inRange_of_decodeField c e c') hfields fun s hs => nomatch hs

theorem nodup_of_validateServers {seen : List String} {l : List (ServerConfig κ)}
    (h : validateServers seen l = .ok ()) :
    (l.map ServerConfig.serverId).Nodup ∧ ∀ s ∈ l, s.serverId ∉ seen := by
  induction l generalizing seen with
  | nil => exact ⟨List.nodup_nil, fun s hs => nomatch hs⟩
  | cons s rest ih =>
    rw [validateServers, bind_eq_ok] at h
    obtain ⟨_, hs, hrest⟩ := h
    obtain ⟨hnodup, hnew⟩ := ih hrest
    have hunseen : s.serverId ∉ seen := by
      intro hseen
      rw [validateServer, if_pos hseen] at hs
      split at hs <;> cases hs
    refine ⟨?_, List.forall_mem_cons.2 ⟨hunseen, fun t ht hseen => ?_⟩⟩
    · rw [List.map_cons, List.nodup_cons]
      refine ⟨fun hmem => ?_, hnodup⟩
      obtain ⟨t, ht, hid⟩ := List.mem_map.1 hmem
      exact hnew t ht (hid ▸ List.mem_cons_self)
    · exact hnew t ht (List.mem_cons_of_mem _ hseen)

/-- **What is accepted** can be registered: the ids of the servers differ, and their whole numbers
fit their words. -/
theorem accepted_of_parse {text : String} {c : FleetConfig Float} (h : parse text = .ok c) :
    (∀ s ∈ c.servers, s.InRange) ∧ (c.servers.map ServerConfig.serverId).Nodup := by
  rw [parse] at h
  split at h
  · next c' hdecode =>
    obtain ⟨d, -, hd⟩ := Option.map_eq_some_iff.1 hdecode
    split at h
    · next hvalid =>
      cases h
      refine ⟨inRange_of_decode hd, ?_⟩
      rw [validate, bind_eq_ok] at hvalid
      obtain ⟨_, -, hvalid⟩ := hvalid
      split at hvalid
      · cases hvalid
      · exact (nodup_of_validateServers hvalid).1
    · cases h
  · cases h

end FleetConfig

/-! ## Registering -/

/-- The servers of these configurations in a table, or what stands for them. -/
def filed {α : Type} (g : Server κ → α) (configs : List (ServerConfig κ)) : Table α :=
  configs.foldl (fun t c => t.insert c.serverId (g (.ofConfig c))) ∅

section Filed

variable {α : Type} {g : Server κ → α} {configs : List (ServerConfig κ)}

theorem filed_concat (g : Server κ → α) (configs : List (ServerConfig κ)) (c : ServerConfig κ) :
    filed g (configs ++ [c]) = (filed g configs).insert c.serverId (g (.ofConfig c)) :=
  List.foldl_concat ..

theorem get?_filed (nodup : (configs.map ServerConfig.serverId).Nodup) {c : ServerConfig κ}
    (hc : c ∈ configs) : (filed g configs).get? c.serverId = some (g (.ofConfig c)) :=
  Table.get?_foldl_insert_of_mem (f := fun c => g (.ofConfig c)) nodup hc

theorem get?_filed_of_new {id : String} (new : id ∉ configs.map ServerConfig.serverId) :
    (filed g configs).get? id = none :=
  Table.get?_foldl_insert_of_ne (f := fun c => g (.ofConfig c)) fun _ hc heq =>
    new (heq ▸ List.mem_map_of_mem hc)

theorem of_get?_filed (nodup : (configs.map ServerConfig.serverId).Nodup) {id : String} {v : α}
    (h : (filed g configs).get? id = some v) :
    ∃ c ∈ configs, c.serverId = id ∧ v = g (.ofConfig c) := by
  by_cases hid : id ∈ configs.map ServerConfig.serverId
  · obtain ⟨c, hc, rfl⟩ := List.mem_map.1 hid
    rw [get?_filed nodup hc] at h
    cases h
    exact ⟨c, hc, rfl, rfl⟩
  · rw [get?_filed_of_new hid] at h
    cases h

end Filed

/-- A ledger over a store to which these servers, and nothing else, were added. -/
def Ledger.ofConfigs (configs : List (ServerConfig κ)) : Ledger κ where
  registry := { Registry.empty with servers := filed (fun s => s) configs }
  store := some ⟨filed Server.encode configs, ∅⟩

theorem Ledger.ofConfigs_concat (configs : List (ServerConfig κ)) (c : ServerConfig κ) :
    ofConfigs (configs ++ [c]) =
      ⟨{ Registry.empty with
          servers := (filed (fun s => s) configs).insert c.serverId (.ofConfig c) },
        some ⟨(filed Server.encode configs).insert c.serverId (Server.ofConfig c).encode, ∅⟩⟩ := by
  rw [ofConfigs, filed_concat, filed_concat]

namespace Orchestrator

/-- Takes servers in, one after the other. -/
def addServers (connect : Server κ → Except BackendError χ) :
    List (ServerConfig κ) → Fleet κ χ → List (Outcome (Server κ)) × Fleet κ χ
  | [], f => ([], f)
  | c :: rest, f =>
    let (outcome, f) := addServer connect c f
    let (outcomes, f) := addServers connect rest f
    (outcome :: outcomes, f)

variable {connect : Server κ → Except BackendError χ} {f : Fleet κ χ}
  {configs rest : List (ServerConfig κ)}

/-- A server whose id is new is taken in, and has a row. -/
theorem addServer_ofConfigs {c : ServerConfig κ} {client : χ}
    (ledger : f.ledger = .ofConfigs configs) (connects : connect (.ofConfig c) = .ok client)
    (new : c.serverId ∉ configs.map ServerConfig.serverId) :
    (addServer connect c f).1 = .ok (.ofConfig c) ∧
      (addServer connect c f).2.ledger = .ofConfigs (configs ++ [c]) := by
  have hnew : (Ledger.ofConfigs configs).registry.servers.contains c.serverId = false :=
    Table.contains_eq_false_iff.2 (get?_filed_of_new new)
  have hadd : f.ledger.perform (·.addServer (.ofConfig c)) =
      (.ok (), .ofConfigs (configs ++ [c])) := by
    rcases (Ledger.ofConfigs configs).registry.addServer_cases (.ofConfig c) with ⟨known, -⟩ | ⟨-, h⟩
    · exact absurd known (Bool.eq_false_iff.1 hnew)
    · rw [ledger, Ledger.perform, h, Ledger.ofConfigs_concat]
      rfl
  simp only [addServer, connects, Fleet.perform, hadd, and_self]

/-- **Servers are registered**, each with its row, if their ids are new and differ. -/
theorem addServers_ofConfigs (ledger : f.ledger = .ofConfigs configs)
    (connects : ∀ c ∈ rest, ∃ client, connect (.ofConfig c) = .ok client)
    (nodup : ((configs ++ rest).map ServerConfig.serverId).Nodup) :
    (addServers connect rest f).1 = rest.map (fun c => .ok (.ofConfig c)) ∧
      (addServers connect rest f).2.ledger = .ofConfigs (configs ++ rest) := by
  induction rest generalizing configs f with
  | nil =>
    rw [List.append_nil]
    exact ⟨rfl, ledger⟩
  | cons c rest ih =>
    obtain ⟨⟨client, hclient⟩, hrest⟩ := List.forall_mem_cons.1 connects
    have hnew : c.serverId ∉ configs.map ServerConfig.serverId := by
      intro hmem
      rw [List.map_append, List.nodup_append] at nodup
      exact nodup.2.2 _ hmem _ List.mem_cons_self rfl
    rw [List.append_cons] at nodup ⊢
    obtain ⟨hadded, hledger⟩ := addServer_ofConfigs ledger hclient hnew
    obtain ⟨hall, hlast⟩ := ih hledger hrest nodup
    refine ⟨?_, hlast⟩
    rw [List.map_cons, ← hadded, ← hall]
    rfl

end Orchestrator

/-! ## Opening again -/

/-- The row of a server that was just registered is read if and only if its cores are. -/
theorem Store.readRow_ofConfig {c : ServerConfig Float} {s : Server Float} (range : c.InRange) :
    readRow Server.decode (Server.ofConfig c).encode = .ok s ↔
      Quantity.Readable c.totalCpuCores ∧ s = (Server.ofConfig c).reread := by
  have hzero : Quantity.Readable (Quantity.zero : Float) := by
    constructor <;> decide +kernel
  rw [readRow_server]
  constructor
  · rintro ⟨⟨-, hnumbers⟩, rfl⟩
    exact ⟨hnumbers.total, rfl⟩
  · rintro ⟨hreadable, rfl⟩
    exact ⟨⟨.ofConfig range, hreadable, hzero⟩, rfl⟩

/-- Nothing is used of a server that was just registered. -/
theorem Registry.settled_ofConfig (c : ServerConfig Float) :
    settled (Server.ofConfig c).reread Usage.none = (Server.ofConfig c).reread := by
  have hcpu : ¬ Quantity.tolerance <
      Quantity.magnitude (Quantity.reread Quantity.zero - Quantity.zero : Float) := by
    decide +kernel
  have hdrifted : drifted (Server.ofConfig c).reread Usage.none = false := by
    simp only [drifted, Server.reread, Server.ofConfig, Usage.none, hcpu, decide_false,
      bne_self_eq_false, Bool.or_false]
  rw [settled, hdrifted, if_neg Bool.false_ne_true]

namespace Ledger

variable {configs : List (ServerConfig Float)} {store : Store Float} {ledger : Ledger Float}

/-- The store of configured servers opens if and only if their cores are readable. -/
theorem opens_ofConfigs (range : ∀ c ∈ configs, c.InRange)
    (nodup : (configs.map ServerConfig.serverId).Nodup) :
    (∃ ledger, ofStore (⟨filed Server.encode configs, ∅⟩ : Store Float) = .ok ledger) ↔
      ∀ c ∈ configs, Quantity.Readable c.totalCpuCores := by
  rw [exists_ofStore, Registry.exists_load]
  constructor
  · rintro ⟨hservers, -⟩ c hc
    obtain ⟨s, hs⟩ := hservers _ (Table.mem_values_iff.2 ⟨_, get?_filed nodup hc⟩)
    exact ((Store.readRow_ofConfig (range c hc)).1 hs).1
  · intro hreadable
    refine ⟨fun row hrow => ?_, fun row hrow => nomatch hrow⟩
    obtain ⟨id, hid⟩ := Table.mem_values_iff.1 hrow
    obtain ⟨c, hc, -, rfl⟩ := of_get?_filed nodup hid
    exact ⟨_, (Store.readRow_ofConfig (range c hc)).2 ⟨hreadable c hc, rfl⟩⟩

/-- **What opens** has every server as it was registered, with its cores as reading gives them. -/
theorem get?_of_ofConfigs (range : ∀ c ∈ configs, c.InRange)
    (nodup : (configs.map ServerConfig.serverId).Nodup)
    (opens : ofStore (⟨filed Server.encode configs, ∅⟩ : Store Float) = .ok ledger)
    {c : ServerConfig Float} (hc : c ∈ configs) :
    ledger.registry.servers.get? c.serverId = some (Server.ofConfig c).reread := by
  obtain ⟨change, hload, rfl⟩ := ofStore_eq_ok.1 opens
  have hnamed : ∀ id row v, (filed Server.encode configs).get? id = some row →
      Store.readRow Server.decode row = .ok v → v.serverId = id := by
    intro id row v hrow hread
    obtain ⟨c, hc, rfl, rfl⟩ := of_get?_filed nodup hrow
    obtain ⟨-, rfl⟩ := (Store.readRow_ofConfig (range c hc)).1 hread
    rfl
  obtain ⟨l, hreads, hregistry, -⟩ :=
    Registry.reads_of_named hnamed (fun _ _ _ hrow _ => by cases hrow) hload
  have hserver : ∀ d ∈ configs, l.servers.get? d.serverId = some (Server.ofConfig d).reread := by
    intro d hd
    obtain ⟨s, hs, hread⟩ := hreads.servers.some_left (get?_filed nodup hd)
    obtain ⟨v, hv, rfl⟩ := map_eq_ok.1 hread
    obtain ⟨-, rfl⟩ := (Store.readRow_ofConfig (range d hd)).1 hv
    exact hs
  have hkeyed : l.servers.Keyed Server.serverId := by
    intro id s hs
    obtain ⟨row, hrow, -⟩ := hreads.servers.some_right hs
    obtain ⟨d, hd, rfl, rfl⟩ := of_get?_filed nodup hrow
    rw [hserver d hd] at hs
    cases hs
    rfl
  have hnone : l.workspaces = ∅ := Table.ext_get? fun id => hreads.workspaces.none_left rfl
  have husage : l.usageOn c.serverId = Usage.none := by
    rw [Registry.usageOn, Registry.allocationsOn, hnone, hreads.pending]
    rfl
  rw [hregistry, Registry.get?_reconcile hkeyed, hserver c hc, Option.map_some, husage,
    Registry.settled_ofConfig]

end Ledger

/-- A server declares the capacity that was configured for it. -/
structure Server.Declares {κ : Type} (s : Server κ) (c : ServerConfig κ) : Prop where
  cores : s.totalCpuCores = c.totalCpuCores
  memory : s.totalMemoryMb = c.totalMemoryMb
  disk : s.totalDiskGb = c.totalDiskGb
  slots : s.maxWorkspaces = c.maxWorkspaces

/-- **What survives.** Let a configuration be accepted, and its servers be registered over a new
store. All are taken in. The store opens again if and only if the cores of every server are
readable, every server is then as it was registered but for its cores as reading gives them, and
all have the capacity that they declared if and only if their cores read as they are. -/
theorem FleetConfig.survives_iff {text : String} {config : FleetConfig Float}
    (accepted : parse text = .ok config) {connect : Server Float → Except BackendError χ}
    (connects : ∀ c ∈ config.servers, ∃ client, connect (.ofConfig c) = .ok client)
    {f : Fleet Float χ} (fresh : Ledger.ofStore .empty = .ok f.ledger) :
    ∃ store : Store Float,
      (Orchestrator.addServers connect config.servers f).1 =
        config.servers.map (fun c => .ok (.ofConfig c)) ∧
      (Orchestrator.addServers connect config.servers f).2.ledger.store = some store ∧
      ((∃ ledger, Ledger.ofStore store = .ok ledger) ↔
        ∀ c ∈ config.servers, Quantity.Readable c.totalCpuCores) ∧
      (∀ ledger, Ledger.ofStore store = .ok ledger → ∀ c ∈ config.servers,
        ledger.registry.servers.get? c.serverId = some (Server.ofConfig c).reread) ∧
      ((∃ ledger, Ledger.ofStore store = .ok ledger ∧ ∀ c ∈ config.servers,
          ∃ s, ledger.registry.servers.get? c.serverId = some s ∧ s.Declares c) ↔
        ∀ c ∈ config.servers, Quantity.Readable c.totalCpuCores ∧
          Quantity.reread c.totalCpuCores = c.totalCpuCores) := by
  obtain ⟨hrange, hnodup⟩ := accepted_of_parse accepted
  have hempty : f.ledger = .ofConfigs [] := Except.ok.inj (fresh.symm.trans Ledger.ofStore_empty)
  obtain ⟨hadded, hledger⟩ := Orchestrator.addServers_ofConfigs hempty connects hnodup
  have hopens := Ledger.opens_ofConfigs hrange hnodup
  have hback := fun ledger (opens : Ledger.ofStore _ = .ok ledger) c (hc : c ∈ config.servers) =>
    Ledger.get?_of_ofConfigs hrange hnodup opens hc
  refine ⟨_, hadded, congrArg Ledger.store hledger, hopens, hback, ?_, ?_⟩
  · rintro ⟨ledger, hledger, hall⟩ c hc
    obtain ⟨s, hs, hdeclares⟩ := hall c hc
    rw [hback ledger hledger c hc] at hs
    cases hs
    exact ⟨hopens.1 ⟨ledger, hledger⟩ c hc, hdeclares.cores⟩
  · intro hsteady
    obtain ⟨ledger, hledger⟩ := hopens.2 fun c hc => (hsteady c hc).1
    exact ⟨ledger, hledger, fun c hc =>
      ⟨_, hback ledger hledger c hc, (hsteady c hc).2, rfl, rfl, rfl⟩⟩

/-! ## One server -/

namespace SampleConfig

/-- The text of a configuration with one server, of so many cores. -/
def text (cores : String) : String :=
  "[[servers]]\nserver_id = \"ws-1\"\nhost = \"127.0.0.1\"\nport = 1\ntotal_memory_mb = 65536\n" ++
    "total_disk_gb = 1000\nmax_workspaces = 12\ntotal_cpu_cores = " ++ cores ++ "\n"

/-- Nothing is registered, over a new store. -/
def fresh : Fleet Float Unit where
  ledger := ⟨.empty, some .empty⟩
  pool := ∅
  placer := .initial
  events := []

/-- Every server is reached. -/
def connect (_ : Server Float) : Except BackendError Unit := .ok ()

theorem parse_sixteen : ∃ config, FleetConfig.parse (text "16.0") = .ok config ∧
    config.servers.map (fun c => (c.serverId, c.totalCpuCores)) = [("ws-1", 16)] := by
  have hparse : (FleetConfig.parse (text "16.0")).toOption.map
      (fun config => config.servers.map fun c => (c.serverId, c.totalCpuCores)) =
        some [("ws-1", 16)] := by
    decide +kernel
  obtain ⟨config, hconfig, hservers⟩ := Option.map_eq_some_iff.1 hparse
  exact ⟨config, eq_ok_of_toOption hconfig, hservers⟩

end SampleConfig

open SampleConfig in
/-- A server of sixteen cores is back. -/
theorem survives_sixteen : ∃ (config : FleetConfig Float) (store : Store Float)
    (ledger : Ledger Float),
    FleetConfig.parse (text "16.0") = .ok config ∧
    config.servers.map ServerConfig.serverId = ["ws-1"] ∧
    (Orchestrator.addServers connect config.servers fresh).2.ledger.store = some store ∧
    Ledger.ofStore store = .ok ledger ∧
    ∀ c ∈ config.servers,
      ∃ s, ledger.registry.servers.get? c.serverId = some s ∧ s.Declares c := by
  obtain ⟨config, hparse, hservers⟩ := parse_sixteen
  have hcores : ∀ c ∈ config.servers, c.totalCpuCores = 16 := by
    intro c hc
    have hmem := List.mem_map_of_mem (f := fun c => (c.serverId, c.totalCpuCores)) hc
    rw [hservers, List.mem_singleton] at hmem
    exact (Prod.mk.inj hmem).2
  have hids : config.servers.map ServerConfig.serverId = ["ws-1"] := by
    have := congrArg (List.map Prod.fst) hservers
    rwa [List.map_map] at this
  have hsixteen : Quantity.Readable (16 : Float) ∧ Quantity.reread (16 : Float) = 16 := by
    refine ⟨⟨?_, ?_⟩, ?_⟩ <;> decide +kernel
  have hconnects : ∀ c ∈ config.servers, ∃ client, connect (.ofConfig c) = .ok client :=
    fun _ _ => ⟨(), rfl⟩
  obtain ⟨store, -, hstore, -, -, hsurvive⟩ :=
    FleetConfig.survives_iff (f := fresh) hparse hconnects Ledger.ofStore_empty
  obtain ⟨ledger, hopens, hback⟩ := hsurvive.2 fun c hc => hcores c hc ▸ hsixteen
  exact ⟨config, store, ledger, hparse, hids, hstore, hopens, hback⟩

open SampleConfig in
/-- **A configuration that does not survive.** A server whose cores are not a number is accepted and
registered, and the store does not open again: the first 113 bytes of its row end with a null in the
place of the cores. -/
theorem lost_not_a_number : ∃ (config : FleetConfig Float) (store : Store Float),
    FleetConfig.parse (text "nan") = .ok config ∧
    (Orchestrator.addServers connect config.servers fresh).1.all (·.isOk) = true ∧
    (Orchestrator.addServers connect config.servers fresh).2.ledger.store = some store ∧
    Ledger.ofStore store = .error (.store (.unreadable
      "invalid type: null, expected f64 at line 1 column 113")) := by
  have hrun : (FleetConfig.parse (text "nan")).toOption.map (fun config =>
      ((Orchestrator.addServers connect config.servers fresh).1.all (·.isOk),
        (Orchestrator.addServers connect config.servers fresh).2.ledger.store.map fun store =>
          match Ledger.ofStore store with
          | .ok _ => none
          | .error e => some e)) =
      some (true, some (some (RegistryError.store (.unreadable
        "invalid type: null, expected f64 at line 1 column 113")))) := by
    decide +kernel
  obtain ⟨config, hconfig, hrun⟩ := Option.map_eq_some_iff.1 hrun
  obtain ⟨hadded, hrun⟩ := Prod.mk.inj hrun
  obtain ⟨store, hstore, hclosed⟩ := Option.map_eq_some_iff.1 hrun
  refine ⟨config, store, eq_ok_of_toOption hconfig, hadded, hstore, ?_⟩
  cases hopen : Ledger.ofStore store with
  | ok ledger =>
    rw [hopen] at hclosed
    cases hclosed
  | error e =>
    rw [hopen] at hclosed
    cases hclosed
    rfl

end WorkspaceFleet
