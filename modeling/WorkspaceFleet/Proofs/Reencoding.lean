import WorkspaceFleet.Proofs.Persisting
import WorkspaceFleet.Proofs.Registering
import WorkspaceFleet.Proofs.Spelling

/-!
# WorkspaceFleet.Proofs.Reencoding

Durations that were read are written so that they are read again, and configurations with them.

Not every duration can be written: what is below a millisecond is lost. A duration that was read has
nothing there (`Duration.spelled_iff`): it is a number of seconds or of milliseconds that a word
holds, and `Duration.format` writes such a number again. `Duration.parse_format` is the round trip of
one duration; `durations_survive` adds that of everything with durations in it, the settings of the
monitor, of the clients and of a fleet.

The numbers of cores are the only part of a configuration that may not be read as they were. Its
written form is therefore taken with any way of writing them (`FleetConfig.encodeAs`).
-/

namespace WorkspaceFleet

open Document

variable {κ α : Type}

/-! ## Durations -/

theorem Text.isBlank_of_isDigit {c : Char} (h : Decimal.isDigit c = true) : isBlank c = false := by
  simp only [Decimal.isDigit, Bool.and_eq_true, decide_eq_true_eq] at h
  simp only [isBlank, Bool.or_eq_false_iff, Bool.and_eq_false_iff, decide_eq_false_iff_not,
    beq_eq_false_iff_ne]
  omega

namespace Duration

open Text (Trimmed)

variable {d : Duration} {n : Nat} {unit : String}

/-- Some text is read as the duration. -/
def Spelled (d : Duration) : Prop := ∃ s, parse s = .ok d

theorem begins_text (n : Nat) (hunit : ∀ c, unit.toList.head? = some c → c.isDigit = false) :
    Begins (Text.Decimal.text n ++ unit) n unit :=
  ⟨Text.Decimal.digits n, by rw [String.toList_append, Text.Decimal.text, String.toList_ofList],
    Text.Decimal.digits_ne_nil n, fun c hc => Text.Decimal.isDigit_of_mem_digits hc, hunit,
    by rw [← Text.Decimal.value_eq_ofDigits, Text.Decimal.value_digits]⟩

/-- A number and a unit have no blanks around them. -/
theorem trimmed_text (n : Nat) (hnonempty : unit.toList ≠ [])
    (hlast : ∀ c, unit.toList.getLast? = some c → Text.isBlank c = false) :
    Trimmed (Text.Decimal.text n ++ unit) (Text.Decimal.text n ++ unit) where
  split := ⟨[], [], by simp, nofun, nofun⟩
  first := by
    intro c hc
    rw [String.toList_append, Text.Decimal.text, String.toList_ofList,
      List.head?_append_of_ne_nil _ (Text.Decimal.digits_ne_nil n)] at hc
    exact Text.isBlank_of_isDigit (Text.Decimal.isDigit_of_mem_digits (List.mem_of_mem_head? hc))
  last := by
    intro c hc
    rw [String.toList_append, List.getLast?_append_of_ne_nil _ hnonempty] at hc
    exact hlast c hc

/-- Both units that are written are letters. -/
theorem parse_text (hunit : unit = "s" ∨ unit = "ms") (fits : n < word64)
    (denotes : Denotes n unit d) : parse (Text.Decimal.text n ++ unit) = .ok d := by
  have hnonempty : unit.toList ≠ [] := by
    rcases hunit with rfl | rfl <;> decide
  have hfirst : ∀ c, unit.toList.head? = some c → c.isDigit = false := by
    rcases hunit with rfl | rfl <;> (rintro c ⟨⟩; rfl)
  have hlast : ∀ c, unit.toList.getLast? = some c → Text.isBlank c = false := by
    rcases hunit with rfl | rfl <;> (rintro c ⟨⟩; rfl)
  exact (parse_eq_ok_iff (trimmed_text n hnonempty hlast)).2
    ⟨n, unit, begins_text n hfirst, fits, denotes⟩

theorem parse_seconds (fits : n < word64) : parse (Text.Decimal.text n ++ "s") = .ok (ofSecs n) :=
  parse_text (.inl rfl) fits (.seconds n)

theorem parse_milliseconds (fits : n < word64) :
    parse (Text.Decimal.text n ++ "ms") = .ok (ofMillis n) :=
  parse_text (.inr rfl) fits (.milliseconds n)

/-- What texts can say: so many seconds or so many milliseconds, in a word either way. -/
theorem spelled_iff : Spelled d ↔ ∃ n < word64, d = ofSecs n ∨ d = ofMillis n := by
  constructor
  · rintro ⟨s, hs⟩
    obtain ⟨n, unit, -, fits, denotes⟩ := (parse_eq_ok_iff (Text.trimmed_trim s)).1 hs
    cases denotes with
    | bare => exact ⟨n, fits, .inl rfl⟩
    | seconds => exact ⟨n, fits, .inl rfl⟩
    | milliseconds => exact ⟨n, fits, .inr rfl⟩
    | minutes fits => exact ⟨60 * n, fits, .inl rfl⟩
    | hours fits => exact ⟨3600 * n, fits, .inl rfl⟩
  · rintro ⟨n, fits, rfl | rfl⟩
    · exact ⟨_, parse_seconds fits⟩
    · exact ⟨_, parse_milliseconds fits⟩

/-- A word of seconds is in range, and so is one of milliseconds. -/
theorem Spelled.inRange (h : d.Spelled) : d.InRange := by
  obtain ⟨n, fits, rfl | rfl⟩ := spelled_iff.1 h
  · show n * 1000000000 / 1000000000 < word64
    omega
  · show n * 1000000 / 1000000000 < word64
    omega

/-- Milliseconds that come to whole seconds are written as these. -/
theorem format_ofMillis (n : Nat) : (ofMillis n).format =
    if n % 1000 ≠ 0 ∨ n / 1000 = 0 then Text.Decimal.text n ++ "ms"
    else Text.Decimal.text (n / 1000) ++ "s" := by
  have hsub : (ofMillis n).subsecNanos / millisecond = n % 1000 := by
    show n * 1000000 % 1000000000 / 1000000 = n % 1000
    omega
  have hsecs : (ofMillis n).secs = n / 1000 := by
    show n * 1000000 / 1000000000 = n / 1000
    omega
  have hmillis : (ofMillis n).millis = n := Nat.mul_div_cancel n (by decide)
  rw [format, hsub, hsecs, hmillis]

theorem ofSecs_eq (n : Nat) : ofSecs n = ofMillis (n * 1000) := by
  rw [ofSecs, ofMillis, Nat.mul_assoc]
  rfl

/-- **A duration that was read is read again** from what is written of it. -/
theorem parse_format (h : d.Spelled) : parse d.format = .ok d := by
  obtain ⟨n, fits, rfl | rfl⟩ := spelled_iff.1 h
  · -- as so many milliseconds it may exceed a word, but it is not written so
    rw [ofSecs_eq, format_ofMillis, Nat.mul_mod_left, Nat.mul_div_cancel n (by decide)]
    split
    · next hzero =>
      obtain rfl : n = 0 := hzero.resolve_left fun h => h rfl
      exact parse_milliseconds (by decide)
    · rw [parse_seconds fits, ofSecs_eq]
  · rw [format_ofMillis]
    split
    · exact parse_milliseconds fits
    · next hwhole =>
      have heq : n / 1000 * 1000 = n := by omega
      rw [parse_seconds (Nat.lt_of_le_of_lt (Nat.div_le_self n 1000) fits), ofSecs_eq, heq]

/-- What is written of durations that were read tells them apart. -/
theorem format_inj {d' : Duration} (h : d.Spelled) (h' : d'.Spelled) :
    d.format = d'.format ↔ d = d' := by
  refine ⟨fun heq => ?_, congrArg format⟩
  have hparse := parse_format h
  rw [heq, parse_format h'] at hparse
  exact (Except.ok.inj hparse).symm

end Duration

/-! ## Documents -/

namespace Document

theorem spelled_of_asDuration {doc : Document κ} {d : Duration} (h : doc.asDuration = .ok d) :
    d.Spelled := by
  cases doc with
  | text s =>
    rw [asDuration] at h
    split at h
    · next d' hparse =>
      cases h
      exact ⟨s, hparse⟩
    · cases h
  | _ => cases h

theorem asDuration_duration {d : Duration} (h : d.Spelled) :
    asDuration (duration d : Document κ) = .ok d := by
  rw [duration, asDuration, Duration.parse_format h]

theorem asNat_nat {limit n : Nat} (h : n < limit) : asNat limit (nat n : Document κ) = .ok n :=
  asNat_eq_ok.2 ⟨h, rfl⟩

theorem asList_list {β : Type} {f : α → Document κ} {read : Document κ → Decoded β} {g : α → β}
    {l : List α} (h : ∀ a ∈ l, read (f a) = .ok (g a)) :
    asList read (.list (l.map f)) = .ok (l.map g) := by
  rw [asList, List.mapM_map]
  exact mapM_eq_ok h

end Document

/-! ## Settings -/

/-- What settings of the monitor hold that were read. -/
structure MonitorConfig.InRange (c : MonitorConfig) : Prop where
  serverInterval : c.serverInterval.Spelled
  workspaceInterval : c.workspaceInterval.Spelled
  callTimeout : c.callTimeout.Spelled
  tickTimeout : c.tickTimeout.Spelled
  offline : c.offlineThreshold < word32
  unresponsive : c.unresponsiveThreshold < word32
  checks : c.maxConcurrentChecks < word64

structure ClientConfig.InRange (c : ClientConfig) : Prop where
  callTimeout : c.callTimeout.Spelled
  concurrent : c.maxConcurrentPerServer < word64
  keepalive : c.keepaliveIdlePerServer < word64
  grace : c.stopGraceSecs < word64

namespace MonitorConfig

theorem inRange_default : MonitorConfig.default.InRange where
  serverInterval := ⟨"15s", by decide +kernel⟩
  workspaceInterval := ⟨"30s", by decide +kernel⟩
  callTimeout := ⟨"5s", by decide +kernel⟩
  tickTimeout := ⟨"20s", by decide +kernel⟩
  offline := by decide
  unresponsive := by decide
  checks := by decide

theorem inRange_of_decodeField (c : MonitorConfig) (e : String × Document κ) (c' : MonitorConfig)
    (h : decodeField c e = .ok c') (range : c.InRange) : c'.InRange := by
  unfold decodeField at h
  split at h
  · exact of_bind_pure h fun _ hread => { range with serverInterval := spelled_of_asDuration hread }
  · exact of_bind_pure h fun _ hread =>
      { range with workspaceInterval := spelled_of_asDuration hread }
  · exact of_bind_pure h fun _ hread => { range with callTimeout := spelled_of_asDuration hread }
  · exact of_bind_pure h fun _ hread => { range with tickTimeout := spelled_of_asDuration hread }
  · exact of_bind_pure h fun _ hread => { range with offline := lt_of_asNat hread }
  · exact of_bind_pure h fun _ hread => { range with unresponsive := lt_of_asNat hread }
  · exact of_bind_pure h fun _ hread => { range with checks := lt_of_asNat hread }
  · exact of_bind_pure h fun _ _ => { range with }
  · cases h
    exact range

theorem inRange_of_decode {doc : Document κ} {c : MonitorConfig} (h : decode doc = .ok c) :
    c.InRange := by
  obtain ⟨fields, -, hfields⟩ := bind_eq_ok.1 h
  exact foldlM_keeps (fun e _ c c' => inRange_of_decodeField c e c') hfields inRange_default

theorem InRange.decode_encode {c : MonitorConfig} (range : c.InRange) :
    decode (c.encode : Document κ) = .ok c := by
  have hcommand : asList asText (.list (c.probeCommand.map .text) : Document κ) =
      .ok c.probeCommand := by
    rw [asList_list fun a _ => asText_eq_ok.2 (Eq.refl a), List.map_id']
  refine bind_eq_ok.2 ⟨_, asFields_record rfl (by decide), ?_⟩
  simp only [List.foldlM_cons, List.foldlM_nil, decodeField,
    asDuration_duration range.serverInterval, asDuration_duration range.workspaceInterval,
    asDuration_duration range.callTimeout, asDuration_duration range.tickTimeout,
    asNat_nat range.offline, asNat_nat range.unresponsive, asNat_nat range.checks, hcommand]
  rfl

end MonitorConfig

namespace ClientConfig

theorem inRange_default : ClientConfig.default.InRange where
  callTimeout := ⟨"10s", by decide +kernel⟩
  concurrent := by decide
  keepalive := by decide
  grace := by decide

theorem inRange_of_decodeField (c : ClientConfig) (e : String × Document κ) (c' : ClientConfig)
    (h : decodeField c e = .ok c') (range : c.InRange) : c'.InRange := by
  unfold decodeField at h
  split at h
  · exact of_bind_pure h fun _ hread => { range with callTimeout := spelled_of_asDuration hread }
  · exact of_bind_pure h fun _ hread => { range with concurrent := lt_of_asNat hread }
  · exact of_bind_pure h fun _ hread => { range with keepalive := lt_of_asNat hread }
  · exact of_bind_pure h fun _ hread => { range with grace := lt_of_asNat hread }
  · cases h
    exact range

theorem inRange_of_decode {doc : Document κ} {c : ClientConfig} (h : decode doc = .ok c) :
    c.InRange := by
  obtain ⟨fields, -, hfields⟩ := bind_eq_ok.1 h
  exact foldlM_keeps (fun e _ c c' => inRange_of_decodeField c e c') hfields inRange_default

theorem InRange.decode_encode {c : ClientConfig} (range : c.InRange) :
    decode (c.encode : Document κ) = .ok c := by
  refine bind_eq_ok.2 ⟨_, asFields_record rfl (by decide), ?_⟩
  simp only [List.foldlM_cons, List.foldlM_nil, decodeField,
    asDuration_duration range.callTimeout, asNat_nat range.concurrent,
    asNat_nat range.keepalive, asNat_nat range.grace]
  rfl

end ClientConfig

/-! ## Servers -/

/-- The written form with the number of cores as `number` writes it. -/
def ServerConfig.encodeAs (number : κ → Document κ) (c : ServerConfig κ) : Document κ :=
  .record [("server_id", .text c.serverId), ("name", .text c.name), ("host", .text c.host),
    ("port", nat c.port), ("transport", c.transport.encode),
    ("total_cpu_cores", number c.totalCpuCores), ("total_memory_mb", nat c.totalMemoryMb),
    ("total_disk_gb", nat c.totalDiskGb), ("max_workspaces", nat c.maxWorkspaces),
    ("labels", table LabelValue.encode c.labels)]

/-- The settings with another number of cores. -/
def ServerConfig.mapCores (f : κ → κ) (c : ServerConfig κ) : ServerConfig κ :=
  { c with totalCpuCores := f c.totalCpuCores }

namespace ServerConfig

variable [Quantity κ] {c : ServerConfig κ}

theorem reread_encodeAs (number : κ → Document κ) :
    Store.reread (c.encodeAs number) = c.encodeAs fun x => Store.reread (number x) := by
  rw [encodeAs, Store.reread_record]
  simp only [List.map_cons, List.map_nil, Store.reread_nat, Store.reread_text,
    Store.reread_labels, Store.reread_transport]
  rfl

theorem InRange.decode_encodeAs (range : c.InRange) {number : κ → Document κ} {f : κ → κ}
    (h : asQuantity (number c.totalCpuCores) = .ok (f c.totalCpuCores)) :
    decode (c.encodeAs number) = .ok (c.mapCores f) := by
  rw [decode, encodeAs, asFields_record]
  case hnames => rfl
  case hnodup => decide
  simp only [bind_eq_ok, Except.ok.injEq, exists_eq_left', field_cons, fieldD_cons,
    String.reduceEq, if_true, if_false, pure_eq_ok, asNat_eq_ok, asText_eq_ok, h,
    asTable_table LabelValue.decode_encode, Transport.decode_encode, and_assoc, exists_and_left,
    exists_eq_left]
  exact ⟨range.port, range.memory, range.disk, range.workspaces, rfl⟩

end ServerConfig

/-! ## Fleets -/

/-- What a configuration holds beside its servers. -/
structure FleetConfig.Settings (c : FleetConfig κ) : Prop where
  monitor : c.monitor.InRange
  pool : c.pool.InRange

/-- The written form with the numbers of cores as `number` writes them. -/
def FleetConfig.encodeAs (number : κ → Document κ) (c : FleetConfig κ) : Document κ :=
  .record [("data_dir", option .text c.dataDir), ("monitor", c.monitor.encode),
    ("pool", c.pool.encode), ("servers", .list (c.servers.map (ServerConfig.encodeAs number)))]

/-- The configuration with other numbers of cores. -/
def FleetConfig.mapCores (f : κ → κ) (c : FleetConfig κ) : FleetConfig κ :=
  { c with servers := c.servers.map (ServerConfig.mapCores f) }

namespace FleetConfig

theorem mapCores_id (c : FleetConfig κ) : c.mapCores id = c := by
  rw [mapCores, show (ServerConfig.mapCores id : ServerConfig κ → ServerConfig κ) = id from rfl,
    List.map_id]

variable [Quantity κ] {doc : Document κ} {c : FleetConfig κ}

theorem encode_eq (c : FleetConfig κ) : c.encode = c.encodeAs quantity := rfl

theorem settings_of_decodeField (c : FleetConfig κ) (e : String × Document κ) (c' : FleetConfig κ)
    (h : decodeField c e = .ok c') (settings : c.Settings) : c'.Settings := by
  unfold decodeField at h
  split at h
  · exact of_bind_pure h fun _ _ => { settings with }
  · exact of_bind_pure h fun _ hread =>
      { settings with monitor := MonitorConfig.inRange_of_decode hread }
  · exact of_bind_pure h fun _ hread =>
      { settings with pool := ClientConfig.inRange_of_decode hread }
  · exact of_bind_pure h fun _ _ => { settings with }
  · cases h
    exact settings

theorem settings_of_decode (h : decode doc = .ok c) : c.Settings := by
  obtain ⟨fields, -, hfields⟩ := bind_eq_ok.1 h
  exact foldlM_keeps (fun e _ c c' => settings_of_decodeField c e c') hfields
    ⟨MonitorConfig.inRange_default, ClientConfig.inRange_default⟩

/-- **A configuration that was read is read again** from what is written of it, with what is read of
the numbers of cores. -/
theorem decode_encodeAs (h : decode doc = .ok c) {number : κ → Document κ} {f : κ → κ}
    (cores : ∀ s ∈ c.servers, asQuantity (number s.totalCpuCores) = .ok (f s.totalCpuCores)) :
    decode (c.encodeAs number) = .ok (c.mapCores f) := by
  have settings := settings_of_decode h
  have hservers : asList ServerConfig.decode
      (.list (c.servers.map (ServerConfig.encodeAs number))) =
        .ok (c.servers.map (ServerConfig.mapCores f)) :=
    asList_list fun s hs => (inRange_of_decode h s hs).decode_encodeAs (cores s hs)
  refine bind_eq_ok.2 ⟨_, asFields_record rfl (by decide), ?_⟩
  simp only [List.foldlM_cons, List.foldlM_nil, decodeField,
    asOption_text_eq_ok.2 (Eq.refl c.dataDir), settings.monitor.decode_encode,
    settings.pool.decode_encode, hservers]
  rfl

theorem decode_encode (h : decode doc = .ok c)
    (finite : ∀ s ∈ c.servers, Quantity.isFinite s.totalCpuCores = true) :
    decode c.encode = .ok c := by
  have hcores : ∀ s ∈ c.servers,
      asQuantity (quantity s.totalCpuCores) = .ok (id s.totalCpuCores) := by
    intro s hs
    rw [quantity, if_pos (finite s hs)]
    rfl
  rw [encode_eq, decode_encodeAs h hcores, mapCores_id]

end FleetConfig

/-! ## Texts -/

/-- What is written of a value is read as the value, from the document and from its text. -/
structure Document.ReadBack (encode : α → Document Float) (decode : Document Float → Decoded α)
    (a : α) : Prop where
  document : decode (encode a) = .ok a
  text : (Json.parse (Json.compact Text.Real.text (encode a))).map decode = some (.ok a)

open Json (Writable)

variable {depth : Nat}

theorem MonitorConfig.reread_encode (c : MonitorConfig) :
    Store.reread (c.encode : Document Float) = c.encode := by
  simp [encode, Store.reread_record, duration, Json.reread_list]

theorem ClientConfig.reread_encode (c : ClientConfig) :
    Store.reread (c.encode : Document Float) = c.encode := by
  simp [encode, Store.reread_record, duration]

theorem MonitorConfig.InRange.writable {c : MonitorConfig} (range : c.InRange) :
    Writable (depth + 2) c.encode := by
  refine .record ?_
  simp only [List.forall_mem_cons]
  refine ⟨.text, .text, .text, .text, .nat32 range.offline, .nat32 range.unresponsive,
    .nat range.checks, .list fun d hd => ?_, List.forall_mem_nil _⟩
  obtain ⟨word, -, rfl⟩ := List.mem_map.1 hd
  exact .text

theorem ClientConfig.InRange.writable {c : ClientConfig} (range : c.InRange) :
    Writable (depth + 1) c.encode := by
  refine .record ?_
  simp only [List.forall_mem_cons]
  exact ⟨.text, .nat range.concurrent, .nat range.keepalive, .nat range.grace,
    List.forall_mem_nil _⟩

theorem ServerConfig.InRange.writable {c : ServerConfig Float} (range : c.InRange)
    (readable : Quantity.Readable c.totalCpuCores) : Writable (depth + 2) c.encode := by
  refine .record ?_
  simp only [List.forall_mem_cons]
  exact ⟨.text, .text, .text, .nat (Nat.lt_trans range.port (by decide)), c.transport.writable,
    .quantity readable, .nat range.memory, .nat range.disk, .nat32 range.workspaces,
    LabelValue.writable_listing c.labels.entries, List.forall_mem_nil _⟩

theorem MonitorConfig.InRange.readBack {c : MonitorConfig} (range : c.InRange) :
    ReadBack encode decode c where
  document := range.decode_encode
  text := by
    rw [Json.parse_compact range.writable, Option.map_some, c.reread_encode, range.decode_encode]

theorem ClientConfig.InRange.readBack {c : ClientConfig} (range : c.InRange) :
    ReadBack encode decode c where
  document := range.decode_encode
  text := by
    rw [Json.parse_compact range.writable, Option.map_some, c.reread_encode, range.decode_encode]

namespace FleetConfig

variable {doc : Document Float} {c : FleetConfig Float}

theorem reread_encodeAs (number : Float → Document Float) :
    Store.reread (c.encodeAs number) = c.encodeAs fun x => Store.reread (number x) := by
  rw [encodeAs, Store.reread_record]
  simp only [List.map_cons, List.map_nil, Store.reread_option Store.reread_text,
    MonitorConfig.reread_encode, ClientConfig.reread_encode, Json.reread_list, List.map_map,
    Function.comp_def, ServerConfig.reread_encodeAs]
  rfl

theorem writable_of_decode (h : decode doc = .ok c)
    (readable : ∀ s ∈ c.servers, Quantity.Readable s.totalCpuCores) :
    Writable (depth + 4) c.encode := by
  have settings := settings_of_decode h
  refine .record ?_
  simp only [List.forall_mem_cons]
  refine ⟨.option fun _ _ => .text, settings.monitor.writable, settings.pool.writable,
    .list fun d hd => ?_, List.forall_mem_nil _⟩
  obtain ⟨s, hs, rfl⟩ := List.mem_map.1 hd
  exact (inRange_of_decode h s hs).writable (readable s hs)

theorem text_of_decode (h : decode doc = .ok c)
    (readable : ∀ s ∈ c.servers, Quantity.Readable s.totalCpuCores) :
    (Json.parse (Json.compact Text.Real.text c.encode)).map decode =
      some (.ok (c.mapCores Quantity.reread)) := by
  rw [Json.parse_compact (writable_of_decode h readable), Option.map_some, encode_eq,
    reread_encodeAs, decode_encodeAs h fun s hs => asQuantity_eq_ok.2 ⟨readable s hs, rfl⟩]

end FleetConfig

/-- **Durations survive being written and read.** What is written of a duration that was read is
read as that duration, so two texts say the same duration if and only if the same is written of both.
The settings of the monitor and of the clients are therefore read again as they are, alone or within
the configuration of a fleet. A whole configuration is read again as it is where its numbers of cores
are kept, as a document keeps those that are finite; from a text it is read with the numbers of cores
that their decimals give. -/
theorem durations_survive :
    (∀ s d, Duration.parse s = .ok d → Duration.parse d.format = .ok d) ∧
    (∀ s s' d d', Duration.parse s = .ok d → Duration.parse s' = .ok d' →
      (d = d' ↔ d.format = d'.format)) ∧
    (∀ (doc : Document Float) c, MonitorConfig.decode doc = .ok c →
      ReadBack MonitorConfig.encode MonitorConfig.decode c) ∧
    (∀ (doc : Document Float) c, ClientConfig.decode doc = .ok c →
      ReadBack ClientConfig.encode ClientConfig.decode c) ∧
    ∀ (doc : Document Float) c, FleetConfig.decode doc = .ok c →
      ReadBack MonitorConfig.encode MonitorConfig.decode c.monitor ∧
      ReadBack ClientConfig.encode ClientConfig.decode c.pool ∧
      FleetConfig.decode (c.encodeAs .real) = .ok c ∧
      ((∀ s ∈ c.servers, Quantity.isFinite s.totalCpuCores = true) →
        FleetConfig.decode c.encode = .ok c) ∧
      ((∀ s ∈ c.servers, Quantity.Readable s.totalCpuCores) →
        (Json.parse (Json.compact Text.Real.text c.encode)).map FleetConfig.decode =
          some (.ok (c.mapCores Quantity.reread))) := by
  refine ⟨fun s d h => Duration.parse_format ⟨s, h⟩,
    fun s s' d d' h h' => (Duration.format_inj ⟨s, h⟩ ⟨s', h'⟩).symm,
    fun doc c h => (MonitorConfig.inRange_of_decode h).readBack,
    fun doc c h => (ClientConfig.inRange_of_decode h).readBack, fun doc c h => ?_⟩
  have settings := FleetConfig.settings_of_decode h
  have hkept : FleetConfig.decode (c.encodeAs .real) = .ok c := by
    rw [FleetConfig.decode_encodeAs (f := id) h fun _ _ => rfl, c.mapCores_id]
  exact ⟨settings.monitor.readBack, settings.pool.readBack, hkept, FleetConfig.decode_encode h,
    FleetConfig.text_of_decode h⟩

namespace ReencodedRun

def monitor : MonitorConfig :=
  { MonitorConfig.default with callTimeout := .ofSecs 120, tickTimeout := .ofMillis 1500 }

def pool : ClientConfig := { ClientConfig.default with callTimeout := .ofSecs 2 }

def monitorDocument : Document Float :=
  .record [("tick_timeout", .text "1500ms"), ("call_timeout", .text "2m")]

def poolDocument : Document Float := .record [("call_timeout", .text "2000ms")]

/-- A server of sixteen cores. -/
def document : Document Float :=
  .record [("monitor", monitorDocument), ("pool", poolDocument),
    ("servers", .list [.record [("server_id", .text "ws-1"), ("host", .text "127.0.0.1"),
      ("port", .int 2376), ("total_cpu_cores", .real 16), ("total_memory_mb", .int 65536),
      ("total_disk_gb", .int 1000), ("max_workspaces", .int 12)]])]

theorem decode_document : ∃ c, FleetConfig.decode document = .ok c ∧
    c.monitor = monitor ∧ c.pool = pool ∧
    c.servers.map ServerConfig.totalCpuCores = [16] := by
  have hdecode : (FleetConfig.decode document).toOption.map (fun c =>
      (c.monitor, c.pool, c.servers.map ServerConfig.totalCpuCores)) =
        some (monitor, pool, [16]) := by
    decide +kernel
  obtain ⟨c, hc, heq⟩ := Option.map_eq_some_iff.1 hdecode
  obtain ⟨hmonitor, hrest⟩ := Prod.mk.inj heq
  obtain ⟨hpool, hcores⟩ := Prod.mk.inj hrest
  exact ⟨c, eq_ok_of_toOption hc, hmonitor, hpool, hcores⟩

end ReencodedRun

open ReencodedRun in
/-- Two ways of saying an hour and a half, and settings with timeouts in three units. -/
theorem durations_survive_sample :
    (Duration.parse " 90m" = .ok (.ofSecs 5400) ∧
      Duration.parse (Duration.ofSecs 5400).format = .ok (.ofSecs 5400) ∧
      (Duration.ofSecs 5400).format = (Duration.ofMillis 5400000).format) ∧
    ReadBack MonitorConfig.encode MonitorConfig.decode monitor ∧
    ReadBack ClientConfig.encode ClientConfig.decode pool ∧
    ∃ c, FleetConfig.decode document = .ok c ∧ c.monitor = monitor ∧ c.pool = pool ∧
      FleetConfig.decode c.encode = .ok c ∧
      (Json.parse (Json.compact Text.Real.text c.encode)).map FleetConfig.decode =
        some (.ok (c.mapCores Quantity.reread)) := by
  obtain ⟨hround, hsame, hmonitor, hpool, hfleet⟩ := durations_survive
  have hminutes : Duration.parse " 90m" = .ok (.ofSecs 5400) := by decide +kernel
  have hmillis : Duration.parse "5400000ms" = .ok (.ofMillis 5400000) := by decide +kernel
  refine ⟨⟨hminutes, hround _ _ hminutes, (hsame _ _ _ _ hminutes hmillis).1 (by decide)⟩,
    hmonitor monitorDocument _ (by decide +kernel), hpool poolDocument _ (by decide +kernel), ?_⟩
  obtain ⟨c, hc, hsettings, hclients, hcores⟩ := decode_document
  obtain ⟨-, -, -, hwhole, htext⟩ := hfleet _ _ hc
  have hreadable : ∀ s ∈ c.servers, Quantity.Readable s.totalCpuCores := by
    intro s hs
    have hmem := List.mem_map_of_mem (f := ServerConfig.totalCpuCores) hs
    rw [hcores, List.mem_singleton] at hmem
    rw [hmem]
    constructor <;> decide +kernel
  exact ⟨c, hc, hsettings, hclients, hwhole fun s hs => (hreadable s hs).1, htext hreadable⟩

end WorkspaceFleet
