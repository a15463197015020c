import WorkspaceFleet.Proofs.Compact
import WorkspaceFleet.Proofs.WriteThrough

/-!
# WorkspaceFleet.Proofs.Persisting

What is written of a server or a workspace says all there is to it: the text of every one that can
be stored reads back as the same value, `written_form_read_back`. The shapes within it never meet:
a kind of transport stands beside the fields of its files, a label is a text or a truth value with
no mark of which, and what is absent is `null`. The labels of a server are written in no particular
order, so the form is taken with every order of them (`Server.encodeListing`).
-/

namespace WorkspaceFleet

open Document

variable {κ α : Type}

/-! ## Labels in any order -/

/-- The fields with another value under a name. -/
def Document.replaceField (name : String) (value : Document κ)
    (fields : List (String × Document κ)) : List (String × Document κ) :=
  fields.map fun e => if e.1 = name then (e.1, value) else e

def Document.withField (d : Document κ) (name : String) (value : Document κ) : Document κ :=
  match d with
  | .record fields => .record (replaceField name value fields)
  | other => other

def LabelValue.encodeListing (listing : List (String × LabelValue)) : Document κ :=
  .record (listing.map fun e => (e.1, e.2.encode))

/-- The written form of a server with its labels in the order of the listing. -/
def Server.encodeListing [Quantity κ] (s : Server κ) (listing : List (String × LabelValue)) :
    Document κ :=
  s.encode.withField "labels" (LabelValue.encodeListing listing)

namespace Document

variable {fields : List (String × Document κ)} {name : String} {value : Document κ}

theorem keys_replaceField :
    (replaceField name value fields).map Prod.fst = fields.map Prod.fst := by
  rw [replaceField, List.map_map]
  refine List.map_congr_left fun e _ => ?_
  rw [Function.comp_apply]
  split <;> rfl

theorem lookup_replaceField (n : String) :
    (replaceField name value fields).lookup n =
      if n = name then (fields.lookup n).map fun _ => value else fields.lookup n := by
  induction fields with
  | nil => split <;> rfl
  | cons e rest ih =>
    obtain ⟨m, d⟩ := e
    have hfirst : replaceField name value ((m, d) :: rest) =
        (m, if m = name then value else d) :: replaceField name value rest := by
      rw [replaceField, List.map_cons, replaceField]
      congr 1
      split <;> rfl
    rw [hfirst, List.lookup_cons, List.lookup_cons]
    by_cases hn : n = m
    · subst hn
      rw [beq_self_eq_true]
      exact apply_ite some (n = name) value d
    · rw [beq_eq_false_iff_ne.2 hn]
      exact ih

theorem field_replaceField {n : String} (hn : n ≠ name) (read : Document κ → Decoded α) :
    field (replaceField name value fields) n read = field fields n read := by
  rw [field, lookup_replaceField, if_neg hn, field]

theorem fieldD_replaceField {n : String} (hn : n ≠ name) (read : Document κ → Decoded α)
    (fallback : α) :
    fieldD (replaceField name value fields) n read fallback = fieldD fields n read fallback := by
  rw [fieldD, lookup_replaceField, if_neg hn, fieldD]

theorem field_replaceField_self {read : Document κ → Decoded α} {a : α}
    (hvalue : read value = .ok a) (h : field fields name read = .ok a) :
    field (replaceField name value fields) name read = .ok a := by
  rw [field, lookup_replaceField, if_pos rfl]
  cases hd : fields.lookup name with
  | none =>
    rw [field, hd] at h
    cases h
  | some d => exact hvalue

end Document

variable [Quantity κ]

theorem Store.reread_replaceField (name : String) (value : Document κ)
    (fields : List (String × Document κ)) :
    reread (.record (replaceField name value fields)) =
      .record (replaceField name (reread value) (fields.map fun e => (e.1, reread e.2))) := by
  rw [reread_record, replaceField, replaceField, List.map_map, List.map_map]
  congr 1
  refine List.map_congr_left fun e _ => ?_
  rw [Function.comp_apply, Function.comp_apply]
  split <;> rfl

/-- Of the labels only the table matters that they are read as. -/
theorem Server.decode_replaceField {fields : List (String × Document κ)} {value : Document κ}
    {labels : Labels} (hnames : fields.map Prod.fst = fieldNames)
    (hvalue : asTable LabelValue.decode value = .ok labels)
    (h : field fields "labels" (asTable LabelValue.decode) = .ok labels) :
    decode (.record (replaceField "labels" value fields)) = decode (.record fields) := by
  have hnodup : fieldNames.Nodup := by decide
  rw [decode, decode, asFields_record (keys_replaceField.trans hnames) hnodup,
    asFields_record hnames hnodup]
  simp only [bind, Except.bind, field_replaceField_self hvalue h, h, field_replaceField,
    fieldD_replaceField, field?, ne_eq, String.reduceEq, not_false_eq_true]

theorem Server.decode_encodeListing {s : Server κ} {listing : List (String × LabelValue)}
    (order : listing.Perm s.labels.entries) :
    decode (Store.reread (s.encodeListing listing)) = decode (Store.reread s.encode) := by
  rw [encodeListing, encode, withField, LabelValue.encodeListing, Store.reread_replaceField,
    Store.reread_listing, Store.reread_record]
  refine decode_replaceField rfl (asTable_listing LabelValue.decode_encode order) ?_
  have hlabels : asTable LabelValue.decode (table LabelValue.encode s.labels : Document κ) =
      .ok s.labels := asTable_table LabelValue.decode_encode s.labels
  simp only [List.map_cons, field_cons, String.reduceEq, if_true, if_false, Store.reread_labels,
    hlabels]

/-- The store keeps the form that lists the labels in the order of their names. -/
theorem Server.encodeListing_entries (s : Server κ) :
    s.encodeListing s.labels.entries = s.encode := by
  simp only [encodeListing, encode, withField, replaceField, List.map_cons, List.map_nil,
    String.reduceEq, if_true, if_false]
  rfl

/-! ## Written forms fit -/

namespace Json.Writable

variable {depth : Nat}

theorem nat {n : Nat} (h : n < word64) : Writable depth (.nat n) :=
  .int (by omega) (by omega)

theorem nat32 {n : Nat} (h : n < word32) : Writable depth (.nat n) :=
  .nat (Nat.lt_trans h (by decide))

theorem option {α : Type} {f : α → Document Float} {o : Option α}
    (h : ∀ a, o = some a → Writable depth (f a)) : Writable depth (.option f o) := by
  cases o with
  | none => exact .null
  | some a => exact h a rfl

theorem quantity {x : Float} (h : Quantity.Readable x) : Writable depth (.quantity x) := by
  rw [Document.quantity, if_pos h.1]
  exact .real h

theorem record_map {α : Type} {f : α → Document Float} (h : ∀ a, Writable depth (f a))
    (entries : List (String × α)) :
    Writable (depth + 1) (.record (entries.map fun e => (e.1, f e.2))) := by
  refine .record fun e he => ?_
  obtain ⟨e, -, rfl⟩ := List.mem_map.1 he
  exact h e.2

theorem withField {d value : Document Float} (h : Writable (depth + 1) d)
    (hvalue : Writable depth value) (name : String) :
    Writable (depth + 1) (d.withField name value) := by
  cases h with
  | record each =>
    refine .record fun e he => ?_
    obtain ⟨e, hmem, rfl⟩ := List.mem_map.1 he
    split
    · exact hvalue
    · exact each e hmem
  | null => exact .null
  | bool => exact .bool
  | int low high => exact .int low high
  | real readable => exact .real readable
  | text => exact .text
  | list each => exact .list each

end Json.Writable

open Json (Writable)

variable {depth : Nat}

theorem LabelValue.writable (v : LabelValue) : Writable depth v.encode := by
  cases v with
  | flag b => exact .bool
  | text s => exact .text

theorem LabelValue.writable_listing (listing : List (String × LabelValue)) :
    Writable (depth + 1) (encodeListing listing) :=
  .record_map writable listing

theorem Transport.writable (t : Transport) : Writable (depth + 1) t.encode := by
  have htexts := Writable.record_map fun s => (Writable.text : Writable depth (.text s))
  cases t with
  | plain => exact htexts [("type", "plain")]
  | mutualTls files =>
    cases files with
    | directory dir => exact htexts [("type", "mutual_tls"), ("cert_dir", dir)]
    | paths authority certificate key =>
      exact htexts [("type", "mutual_tls"), ("ca_path", authority), ("cert_path", certificate),
        ("key_path", key)]

theorem DaemonObservation.InRange.writable {o : DaemonObservation} (h : o.InRange) :
    Writable (depth + 1) o.encode := by
  refine .record ?_
  simp only [List.forall_mem_cons]
  exact ⟨.nat32 h.containers, .nat32 h.running, .nat32 h.cpus, .nat h.memory,
    .option fun _ _ => .text, List.forall_mem_nil _⟩

theorem Allocation.InRange.writable {a : Allocation Float} (h : a.InRange)
    (readable : a.Numbers Quantity.Readable) : Writable (depth + 1) a.encode := by
  refine .record ?_
  simp only [List.forall_mem_cons]
  exact ⟨.quantity readable, .nat h.memory, .nat h.disk, List.forall_mem_nil _⟩

theorem Server.InRange.writable {s : Server Float} (h : s.InRange)
    (readable : s.Numbers Quantity.Readable) : Writable (depth + 2) s.encode := by
  refine .record ?_
  simp only [List.forall_mem_cons]
  exact ⟨.text, .text, .text, .nat (Nat.lt_trans h.port (by decide)), s.transport.writable,
    .quantity readable.total, .nat (h.declared .memory), .nat (h.declared .disk),
    .nat32 (h.declared .slots), LabelValue.writable_listing s.labels.entries, .text,
    .option fun t ht => .nat (h.checkedAt t ht), .option fun _ _ => .text, .nat32 h.failures,
    .option fun o ho => (h.observed o ho).writable, .quantity readable.used,
    .nat (h.used .memory), .nat (h.used .disk), .nat32 (h.used .slots), List.forall_mem_nil _⟩

theorem Workspace.InRange.writable {w : Workspace Float} (h : w.InRange)
    (readable : w.Numbers Quantity.Readable) : Writable (depth + 2) w.encode := by
  refine .record ?_
  simp only [List.forall_mem_cons]
  exact ⟨.text, .text, .bool, .bool, .quantity readable.percent, .nat h.memory,
    .nat h.startedAt, .option fun t ht => .nat (h.checkedAt t ht), .option fun _ _ => .text,
    h.allocation.writable readable.allocation, .nat32 h.failures, List.forall_mem_nil _⟩

/-! ## Texts of values that can be stored -/

/-- **The text of a server or a workspace says all there is to it**: it reads back as the same
value, with every order of a server's labels. -/
theorem written_form_read_back :
    (∀ (s : Server Float) (listing : List (String × LabelValue)), s.Storable →
      listing.Perm s.labels.entries →
      (Json.parse (Json.compact Text.Real.text (s.encodeListing listing))).map Server.decode =
        some (.ok s)) ∧
    (∀ w : Workspace Float, w.Storable →
      (Json.parse (Json.compact Text.Real.text w.encode)).map Workspace.decode =
        some (.ok w)) := by
  constructor
  · intro s listing h order
    have hwritable : Writable 127 (s.encodeListing listing) :=
      (h.range.writable h.readable).withField (LabelValue.writable_listing listing) "labels"
    rw [Json.parse_compact hwritable, Option.map_some, Server.decode_encodeListing order,
      h.decode_reread]
  · intro w h
    rw [Json.parse_compact (h.range.writable h.readable), Option.map_some, h.decode_reread]

namespace PersistedRun

theorem steady_four : Quantity.Steady (4.0 : Float) := ⟨by decide +kernel, by decide +kernel⟩

theorem steady_half : Quantity.Steady (0.5 : Float) := ⟨by decide +kernel, by decide +kernel⟩

/-- A truth value beside a text that looks like it. -/
def listing : List (String × LabelValue) := [("kept", .text "true"), ("gpu", .flag true)]

def server : Server Float :=
  { serverId := "a", name := "first \"rack\"", host := "10.0.0.1", port := 2376,
    transport := .mutualTls (.paths "ca.pem" "cert.pem" "key.pem"), totalCpuCores := 4.0,
    totalMemoryMb := word64 - 1, totalDiskGb := 0, maxWorkspaces := word32 - 1,
    labels := .ofList listing, status := .offline, lastHealthCheckAt := some 1700000000,
    lastError := some "no answer\n", consecutiveFailures := 3,
    observed := some ⟨2, 1, 8, 16384, none⟩, cpuUsed := 0.5, memoryUsedMb := 512, diskUsedGb := 0,
    workspaceCount := 1 }

def workspace : Workspace Float :=
  { containerId := "c", serverId := "a", running := true, healthy := false, cpuPercent := 4.0,
    memoryUsageMb := 256, startedAt := 1700000000, lastCheckAt := none, lastError := none,
    allocation := ⟨0.5, 512, 0⟩, consecutiveProbeFailures := 1 }

theorem server_storable : server.Storable where
  range :=
    { port := by decide
      declared := by rintro (_ | _ | _) <;> decide
      used := by rintro (_ | _ | _) <;> decide
      failures := by decide
      observed := fun o ho => by
        cases ho
        exact ⟨by decide, by decide, by decide, by decide⟩
      checkedAt := fun t ht => by
        cases ht
        decide }
  numbers := ⟨steady_four, steady_half⟩

theorem workspace_storable : workspace.Storable where
  range := ⟨by decide, by decide, nofun, ⟨by decide, by decide⟩, by decide⟩
  numbers := ⟨steady_four, steady_half⟩

end PersistedRun

open PersistedRun in
/-- A server whose labels are not listed in key order, with the other shapes side by side. -/
theorem written_form_read_back_sample :
    server.Storable ∧ listing.Perm server.labels.entries ∧
    (Json.parse (Json.compact Text.Real.text (server.encodeListing listing))).map Server.decode =
      some (.ok server) ∧
    workspace.Storable ∧
    (Json.parse (Json.compact Text.Real.text workspace.encode)).map Workspace.decode =
      some (.ok workspace) := by
  have order : listing.Perm server.labels.entries := by decide
  exact ⟨server_storable, order, written_form_read_back.1 server listing server_storable order,
    workspace_storable, written_form_read_back.2 workspace workspace_storable⟩

end WorkspaceFleet
