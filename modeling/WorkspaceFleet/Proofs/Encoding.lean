import WorkspaceFleet.Proofs.Range

/-!
# WorkspaceFleet.Proofs.Encoding

What the written forms of servers and workspaces read back as.

Every number that need not be whole is read again from its text, and what comes of it may be
another number or none: `reread` is the value with all its numbers read again. A row is read if
and only if the whole numbers fit their words and the others are `Readable`, and then as the
reread value: `readRow_server` and `readRow_workspace`. Of a row that is not read a number is at
fault, and the store says which.
-/

namespace WorkspaceFleet

variable {κ : Type} {α β : Type}

/-- A number that is written as one and read as one. -/
def Quantity.Readable [Quantity κ] (x : κ) : Prop :=
  Quantity.isFinite x = true ∧ Quantity.isFinite (Quantity.reread x) = true

/-! ## Numbers of a value -/

/-- All numbers of the allocation, the server or the workspace that need not be whole have a
property. -/
def Allocation.Numbers (P : κ → Prop) (a : Allocation κ) : Prop := P a.cpuCores

structure Server.Numbers (P : κ → Prop) (s : Server κ) : Prop where
  total : P s.totalCpuCores
  used : P s.cpuUsed

structure Workspace.Numbers (P : κ → Prop) (w : Workspace κ) : Prop where
  percent : P w.cpuPercent
  allocation : w.allocation.Numbers P

/-- The value with its numbers read again. -/
def Allocation.reread [Quantity κ] (a : Allocation κ) : Allocation κ :=
  { a with cpuCores := Quantity.reread a.cpuCores }

def Server.reread [Quantity κ] (s : Server κ) : Server κ :=
  { s with
    totalCpuCores := Quantity.reread s.totalCpuCores
    cpuUsed := Quantity.reread s.cpuUsed }

def Workspace.reread [Quantity κ] (w : Workspace κ) : Workspace κ :=
  { w with
    cpuPercent := Quantity.reread w.cpuPercent
    allocation := w.allocation.reread }

namespace Server

variable [Quantity κ]

@[simp] theorem serverId_reread (s : Server κ) : s.reread.serverId = s.serverId := rfl

@[simp] theorem used_reread (s : Server κ) (q : Resource) : s.reread.used q = s.used q := by
  cases q <;> rfl

@[simp] theorem declared_reread (s : Server κ) (q : Resource) :
    s.reread.declared q = s.declared q := by
  cases q <;> rfl

theorem InRange.reread {s : Server κ} (h : s.InRange) : s.reread.InRange where
  port := h.port
  declared q := by
    rw [declared_reread]
    exact h.declared q
  used q := by
    rw [used_reread]
    exact h.used q
  failures := h.failures
  observed := h.observed
  checkedAt := h.checkedAt

end Server

namespace Workspace

variable [Quantity κ]

@[simp] theorem containerId_reread (w : Workspace κ) : w.reread.containerId = w.containerId := rfl

@[simp] theorem loadOn_reread (w : Workspace κ) (id : String) (q : Resource) :
    w.reread.loadOn id q = w.loadOn id q := by
  cases q <;> rfl

theorem InRange.reread {w : Workspace κ} (h : w.InRange) : w.reread.InRange where
  memory := h.memory
  startedAt := h.startedAt
  checkedAt := h.checkedAt
  allocation := ⟨h.allocation.memory, h.allocation.disk⟩
  failures := h.failures

end Workspace

/-! ## Documents -/

namespace Document

/-- A record with exactly the known fields is accepted. -/
theorem asFields_record {names : List String} {fields : List (String × Document κ)}
    (hnames : fields.map Prod.fst = names) (hnodup : names.Nodup) :
    asFields names (.record fields) = .ok fields := by
  subst hnames
  rw [asFields, if_pos]
  rw [List.all_eq_true]
  intro n _
  have hcount := List.nodup_iff_count_le_one.1 hnodup n
  rw [List.count, List.countP_map, List.countP_eq_length_filter] at hcount
  exact decide_eq_true hcount

theorem field_cons (m : String) (d : Document κ) (fields : List (String × Document κ))
    (n : String) (read : Document κ → Decoded α) :
    field ((m, d) :: fields) n read = if n = m then read d else field fields n read := by
  rw [field, List.lookup_cons]
  by_cases h : n = m
  · rw [beq_iff_eq.2 h, if_pos h]
  · rw [beq_eq_false_iff_ne.2 h, if_neg h]
    rfl

theorem fieldD_cons (m : String) (d : Document κ) (fields : List (String × Document κ))
    (n : String) (read : Document κ → Decoded α) (fallback : α) :
    fieldD ((m, d) :: fields) n read fallback =
      if n = m then read d else fieldD fields n read fallback := by
  rw [fieldD, List.lookup_cons]
  by_cases h : n = m
  · rw [beq_iff_eq.2 h, if_pos h]
  · rw [beq_eq_false_iff_ne.2 h, if_neg h]
    rfl

theorem asNat_eq_ok {limit n m : Nat} :
    asNat limit (nat n : Document κ) = .ok m ↔ n < limit ∧ m = n := by
  show (if n < limit then .ok n else .error .mismatch) = (.ok m : Decoded Nat) ↔ _
  split
  · next h => simp [h, eq_comm]
  · next h => simp [h]

theorem asText_eq_ok {s t : String} : asText (.text s : Document κ) = .ok t ↔ t = s := by
  simp [asText, eq_comm]

theorem asBool_eq_ok {b c : Bool} : asBool (.bool b : Document κ) = .ok c ↔ c = b := by
  simp [asBool, eq_comm]

/-- A number is read as one if it is written as one and reads back as one. -/
theorem asQuantity_eq_ok [Quantity κ] {x y : κ} :
    asQuantity (Store.reread (quantity x)) = .ok y ↔
      Quantity.Readable x ∧ y = Quantity.reread x := by
  unfold quantity Quantity.Readable
  cases hx : Quantity.isFinite x with
  | false => simp [Store.reread, mapReal, asQuantity]
  | true =>
    simp only [Store.reread, mapReal, quantity, if_true, true_and]
    cases hy : Quantity.isFinite (Quantity.reread x) with
    | false => simp [asQuantity]
    | true => simp [asQuantity, eq_comm]

/-- A value that may be absent, where what is written for it is never `null`. -/
theorem asOption_eq_ok {f : α → Document κ} {read : Document κ → Decoded α} {P : α → Prop}
    (hread : ∀ a b, read (f a) = .ok b ↔ P a ∧ b = a) (hnull : ∀ a, f a ≠ .null)
    {o o' : Option α} :
    asOption read (option f o) = .ok o' ↔ (∀ a, o = some a → P a) ∧ o' = o := by
  cases o with
  | none => simp [option, asOption, eq_comm]
  | some a =>
    have hsome : asOption read (f a) = (read (f a)).map some := by
      cases hf : f a with
      | null => exact absurd hf (hnull a)
      | _ => rfl
    rw [option, hsome]
    have ha := hread a
    cases hr : read (f a) with
    | error e =>
      have hnot : ¬P a := fun hP => by
        have := (ha a).2 ⟨hP, rfl⟩
        rw [hr] at this
        cases this
      simp [Except.map, hnot]
    | ok b =>
      obtain ⟨hP, rfl⟩ := (ha b).1 hr
      simp [Except.map, hP, eq_comm]

theorem asOption_nat_eq_ok {limit : Nat} {o o' : Option Nat} :
    asOption (asNat limit) (option nat o : Document κ) = .ok o' ↔
      (∀ n, o = some n → n < limit) ∧ o' = o :=
  asOption_eq_ok (fun _ _ => asNat_eq_ok) fun _ h => by cases h

theorem asOption_text_eq_ok {o o' : Option String} :
    asOption asText (option .text o : Document κ) = .ok o' ↔ o' = o := by
  rw [asOption_eq_ok (P := fun _ => True) (fun _ _ => by rw [asText_eq_ok]; simp)
    fun _ h => by cases h]
  simp

/-- A table is read back if every value is, whatever the order of its entries. -/
theorem asTable_listing {f : α → Document κ} {read : Document κ → Decoded α}
    (h : ∀ a, read (f a) = .ok a) {t : Table α} {listing : List (String × α)}
    (order : listing.Perm t.entries) :
    asTable read (.record (listing.map fun e => (e.1, f e.2))) = .ok t := by
  have hentries : (listing.map fun e => (e.1, f e.2)).mapM
      (fun e => do return (e.1, ← read e.2)) = (.ok listing : Decoded (List (String × α))) := by
    rw [List.mapM_map, mapM_eq_ok (g := id), List.map_id]
    intro e _
    rw [Function.comp_apply, h]
    rfl
  rw [asTable, hentries]
  show Except.ok (Table.ofList listing) = _
  rw [Table.ofList_perm order]

theorem asTable_table {f : α → Document κ} {read : Document κ → Decoded α}
    (h : ∀ a, read (f a) = .ok a) (t : Table α) : asTable read (table f t) = .ok t :=
  asTable_listing h (.refl _)

end Document

theorem LabelValue.decode_encode (v : LabelValue) : decode (v.encode : Document κ) = .ok v := by
  cases v <;> rfl

theorem Transport.decode_encode (t : Transport) : decode (t.encode : Document κ) = .ok t := by
  cases t with
  | plain => rfl
  | mutualTls files => cases files <;> rfl

theorem ServerStatus.decode_encode (s : ServerStatus) : decode (s.encode : Document κ) = .ok s := by
  cases s <;> rfl

/-! ## Rows with their numbers read again -/

namespace Store

variable [Quantity κ]

theorem reread_record (fields : List (String × Document κ)) :
    reread (.record fields) = .record (fields.map fun e => (e.1, reread e.2)) := by
  rw [reread, Document.mapReal]
  congr 1
  induction fields with
  | nil => rfl
  | cons e rest ih =>
    rw [Document.mapRealFields, ih]
    rfl

@[simp] theorem reread_nat (n : Nat) : reread (.nat n : Document κ) = .nat n := by
  simp [reread, Document.nat, Document.mapReal]

@[simp] theorem reread_text (s : String) : reread (.text s : Document κ) = .text s := by
  simp [reread, Document.mapReal]

@[simp] theorem reread_bool (b : Bool) : reread (.bool b : Document κ) = .bool b := by
  simp [reread, Document.mapReal]

/-- What has no numbers in it is read as it is written. -/
theorem reread_option {f : α → Document κ} (h : ∀ a, reread (f a) = f a) (o : Option α) :
    reread (.option f o) = .option f o := by
  cases o with
  | none => simp [reread, Document.option, Document.mapReal]
  | some a => exact h a

theorem reread_listing (listing : List (String × LabelValue)) :
    reread (.record (listing.map fun e => (e.1, e.2.encode)) : Document κ) =
      .record (listing.map fun e => (e.1, e.2.encode)) := by
  rw [reread_record, List.map_map]
  congr 2
  funext e
  cases h : e.2 <;> simp [LabelValue.encode, h]

theorem reread_labels (l : Labels) :
    reread (.table LabelValue.encode l : Document κ) = .table LabelValue.encode l :=
  reread_listing l.entries

theorem reread_transport (t : Transport) : reread (t.encode : Document κ) = t.encode := by
  cases t with
  | plain => simp [Transport.encode, reread_record]
  | mutualTls files =>
    cases files <;> simp [Transport.encode, CertificateFiles.fields, reread_record]

theorem reread_status (s : ServerStatus) : reread (s.encode : Document κ) = s.encode := by
  simp [ServerStatus.encode]

theorem reread_observation (o : DaemonObservation) : reread (o.encode : Document κ) = o.encode := by
  simp [DaemonObservation.encode, reread_record, reread_option]

end Store

/-! ## Values -/

open Document

theorem DaemonObservation.decode_eq_ok {o t : DaemonObservation} :
    decode (o.encode : Document κ) = .ok t ↔ o.InRange ∧ t = o := by
  rw [decode, encode, asFields_record]
  case hnames => rfl
  case hnodup => decide
  simp only [bind_eq_ok, Except.ok.injEq, exists_eq_left', field_cons, fieldD_cons, field?,
    String.reduceEq, if_true, if_false, pure_eq_ok, asNat_eq_ok, asOption_text_eq_ok, and_assoc,
    exists_and_left, exists_eq_left]
  constructor
  · rintro ⟨hcontainers, hrunning, hcpus, hmemory, rfl⟩
    exact ⟨⟨hcontainers, hrunning, hcpus, hmemory⟩, rfl⟩
  · rintro ⟨⟨hcontainers, hrunning, hcpus, hmemory⟩, rfl⟩
    exact ⟨hcontainers, hrunning, hcpus, hmemory, rfl⟩

theorem asOption_observation_eq_ok {o o' : Option DaemonObservation} :
    asOption DaemonObservation.decode (option DaemonObservation.encode o : Document κ) = .ok o' ↔
      (∀ x, o = some x → x.InRange) ∧ o' = o :=
  asOption_eq_ok (fun _ _ => DaemonObservation.decode_eq_ok) fun _ h => by cases h

variable [Quantity κ]

theorem Allocation.decode_eq_ok {a t : Allocation κ} :
    decode (Store.reread a.encode) = .ok t ↔
      (a.InRange ∧ a.Numbers Quantity.Readable) ∧ t = a.reread := by
  rw [encode, Store.reread_record, decode, asFields_record]
  case hnames => rfl
  case hnodup => decide
  simp only [bind_eq_ok, Except.ok.injEq, exists_eq_left', field_cons, String.reduceEq, if_true,
    if_false, pure_eq_ok, asNat_eq_ok, asQuantity_eq_ok, List.map_cons, Store.reread_nat,
    and_assoc, exists_and_left, exists_eq_left]
  constructor
  · rintro ⟨hcpu, hmemory, hdisk, rfl⟩
    exact ⟨⟨hmemory, hdisk⟩, hcpu, rfl⟩
  · rintro ⟨⟨hmemory, hdisk⟩, hcpu, rfl⟩
    exact ⟨hcpu, hmemory, hdisk, rfl⟩

theorem Workspace.decode_eq_ok {w t : Workspace κ} :
    decode (Store.reread w.encode) = .ok t ↔
      (w.InRange ∧ w.Numbers Quantity.Readable) ∧ t = w.reread := by
  rw [encode, Store.reread_record, decode, asFields_record]
  case hnames => rfl
  case hnodup => decide
  simp only [bind_eq_ok, Except.ok.injEq, exists_eq_left', field_cons, fieldD_cons, field?,
    String.reduceEq, if_true, if_false, pure_eq_ok, asNat_eq_ok, asQuantity_eq_ok, asText_eq_ok,
    asBool_eq_ok, asOption_nat_eq_ok, asOption_text_eq_ok, Allocation.decode_eq_ok, List.map_cons,
    Store.reread_nat, Store.reread_text, Store.reread_bool, Store.reread_option, implies_true,
    and_assoc, exists_and_left, exists_eq_left]
  constructor
  · rintro ⟨hpercent, hmemory, hstarted, hchecked, hrange, hcpu, hfailures, rfl⟩
    exact ⟨⟨hmemory, hstarted, hchecked, hrange, hfailures⟩, ⟨hpercent, hcpu⟩, rfl⟩
  · rintro ⟨⟨hmemory, hstarted, hchecked, hrange, hfailures⟩, ⟨hpercent, hcpu⟩, rfl⟩
    exact ⟨hpercent, hmemory, hstarted, hchecked, hrange, hcpu, hfailures, rfl⟩

theorem Server.decode_eq_ok {s t : Server κ} :
    decode (Store.reread s.encode) = .ok t ↔
      (s.InRange ∧ s.Numbers Quantity.Readable) ∧ t = s.reread := by
  rw [encode, Store.reread_record, decode, asFields_record]
  case hnames => rfl
  case hnodup => decide
  simp only [bind_eq_ok, Except.ok.injEq, exists_eq_left', field_cons, fieldD_cons, field?,
    String.reduceEq, if_true, if_false, pure_eq_ok, asNat_eq_ok, asQuantity_eq_ok, asText_eq_ok,
    asOption_nat_eq_ok, asOption_text_eq_ok, asOption_observation_eq_ok,
    asTable_table LabelValue.decode_encode, Transport.decode_encode,
    ServerStatus.decode_encode, List.map_cons, Store.reread_nat, Store.reread_text,
    Store.reread_option, Store.reread_observation, Store.reread_labels, Store.reread_transport,
    Store.reread_status, implies_true, and_assoc, exists_and_left, exists_eq_left]
  constructor
  · rintro ⟨hport, htotal, hmemory, hdisk, hmax, hchecked, hfailures, hobserved, hused,
      hmemoryUsed, hdiskUsed, hcount, rfl⟩
    refine ⟨⟨hport, ?_, ?_, hfailures, hobserved, hchecked⟩, ⟨htotal, hused⟩, rfl⟩
    · rintro (_ | _ | _)
      exacts [hmax, hmemory, hdisk]
    · rintro (_ | _ | _)
      exacts [hcount, hmemoryUsed, hdiskUsed]
  · rintro ⟨⟨hport, hdeclared, hcounted, hfailures, hobserved, hchecked⟩, ⟨htotal, hused⟩, rfl⟩
    exact ⟨hport, htotal, hdeclared .memory, hdeclared .disk, hdeclared .slots, hchecked,
      hfailures, hobserved, hused, hcounted .memory, hcounted .disk, hcounted .slots, rfl⟩

/-! ## Rows -/

namespace Store

/-- **A server's row** is read if its numbers allow, and as the server with its numbers read
again. -/
theorem readRow_server {s t : Server κ} :
    readRow Server.decode s.encode = .ok t ↔
      (s.InRange ∧ s.Numbers Quantity.Readable) ∧ t = s.reread := by
  rw [← Server.decode_eq_ok, readRow]
  cases Server.decode (reread s.encode) <;> simp

/-- **A workspace's row** likewise. -/
theorem readRow_workspace {w t : Workspace κ} :
    readRow Workspace.decode w.encode = .ok t ↔
      (w.InRange ∧ w.Numbers Quantity.Readable) ∧ t = w.reread := by
  rw [← Workspace.decode_eq_ok, readRow]
  cases Workspace.decode (reread w.encode) <;> simp

/-! ### Rows that are not read -/

theorem numberFault?_eq_none {x : κ} :
    numberFault? (quantity x) = none ↔ Quantity.Readable x := by
  unfold quantity Quantity.Readable
  cases hx : Quantity.isFinite x with
  | false => simp [numberFault?]
  | true => simp [numberFault?]

/-- A row has a fault where a number stands that is not readable. -/
theorem exists_fault {row cut : Document κ} {path : List String} {x : κ}
    (stands : row.upTo path = some (cut, quantity x)) (unreadable : ¬ Quantity.Readable x) :
    ∃ cause, fault? row path = some cause := by
  obtain ⟨fault, hfault⟩ := Option.ne_none_iff_exists'.1 (mt numberFault?_eq_none.1 unreadable)
  rw [fault?, stands]
  simp only [Option.bind_eq_bind, Option.bind_some, hfault]
  exact ⟨_, rfl⟩

/-- Of a row that is not read and has a fault, one of its faults is said. -/
theorem unread_of_fault {decode : Document κ → Decoded α} {row : Document κ} {e : StoreError}
    (unread : readRow decode row = .error e) {path : List String} (listed : path ∈ numberPaths)
    (faulty : ∃ cause, fault? row path = some cause) :
    ∃ path ∈ numberPaths, ∃ cause, fault? row path = some cause ∧ e = .unreadable cause := by
  have hcause : e = .unreadable (unreadableCause row) := by
    rw [readRow] at unread
    split at unread
    · cases unread
    · cases unread
      rfl
  obtain ⟨_, hfault⟩ := faulty
  cases hfirst : numberPaths.findSome? (fault? row) with
  | none =>
    rw [List.findSome?_eq_none_iff.1 hfirst path listed] at hfault
    cases hfault
  | some cause =>
    obtain ⟨first, hlisted, hfault⟩ := List.exists_of_findSome?_eq_some hfirst
    refine ⟨first, hlisted, cause, hfault, ?_⟩
    rw [hcause, unreadableCause, hfirst]
    rfl

/-- **A server's row that is not read** has a number that is at fault, and that is what is said. -/
theorem readRow_server_eq_error {s : Server κ} (range : s.InRange) {e : StoreError}
    (unread : readRow Server.decode s.encode = .error e) :
    ∃ path ∈ numberPaths, ∃ cause, fault? s.encode path = some cause ∧ e = .unreadable cause := by
  by_cases total : Quantity.Readable s.totalCpuCores
  · have used : ¬ Quantity.Readable s.cpuUsed := by
      intro used
      rw [readRow_server.2 ⟨⟨range, total, used⟩, rfl⟩] at unread
      cases unread
    exact unread_of_fault unread (show ["current_cpu_used"] ∈ numberPaths by decide)
      (exists_fault rfl used)
  · exact unread_of_fault unread (show ["total_cpu_cores"] ∈ numberPaths by decide)
      (exists_fault rfl total)

/-- **A workspace's row that is not read** likewise. -/
theorem readRow_workspace_eq_error {w : Workspace κ} (range : w.InRange) {e : StoreError}
    (unread : readRow Workspace.decode w.encode = .error e) :
    ∃ path ∈ numberPaths, ∃ cause, fault? w.encode path = some cause ∧ e = .unreadable cause := by
  by_cases percent : Quantity.Readable w.cpuPercent
  · have cores : ¬ Quantity.Readable w.allocation.cpuCores := by
      intro cores
      rw [readRow_workspace.2 ⟨⟨range, percent, cores⟩, rfl⟩] at unread
      cases unread
    exact unread_of_fault unread (show ["allocation", "cpu_cores"] ∈ numberPaths by decide)
      (exists_fault rfl cores)
  · exact unread_of_fault unread (show ["cpu_percent"] ∈ numberPaths by decide)
      (exists_fault rfl percent)

end Store
end WorkspaceFleet
