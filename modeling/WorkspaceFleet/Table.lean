/-!
# WorkspaceFleet.Table

Finite maps from texts, kept in the order of their keys.

A `Table α` is a list of entries whose keys strictly increase, so a key stands at most once, the
entries are always met in key order, and a table is determined by what its lookups answer:
`Table.ext_get?`. Texts are ordered by code point, which is also the order of their UTF-8 bytes.

Main statements: `get?_insert`, `get?_erase` and `get?_map` say what each operation does to the
lookups.
-/

namespace WorkspaceFleet

/-- A finite map from texts to `α`, in key order. -/
structure Table (α : Type) where
  entries : List (String × α)
  sorted : entries.Pairwise (·.1 < ·.1)

namespace Table

variable {α β : Type}

def empty : Table α := ⟨[], .nil⟩

instance : EmptyCollection (Table α) := ⟨empty⟩
instance : Inhabited (Table α) := ⟨empty⟩

instance [BEq α] : BEq (Table α) := ⟨fun s t => s.entries == t.entries⟩

def keys (t : Table α) : List String := t.entries.map (·.1)

def values (t : Table α) : List α := t.entries.map (·.2)

def size (t : Table α) : Nat := t.entries.length

def isEmpty (t : Table α) : Bool := t.entries.isEmpty

def lookup (k : String) : List (String × α) → Option α
  | [] => none
  | (j, v) :: rest => if j = k then some v else lookup k rest

def get? (t : Table α) (k : String) : Option α := lookup k t.entries

def contains (t : Table α) (k : String) : Bool := (t.get? k).isSome

def insertEntry (k : String) (v : α) : List (String × α) → List (String × α)
  | [] => [(k, v)]
  | (j, w) :: rest =>
    if k < j then (k, v) :: (j, w) :: rest
    else if j < k then (j, w) :: insertEntry k v rest
    else (k, v) :: rest

def eraseEntry (k : String) (l : List (String × α)) : List (String × α) :=
  l.filter (fun e => e.1 ≠ k)

theorem mem_insertEntry {k : String} {v : α} {l : List (String × α)} {e : String × α}
    (h : e ∈ insertEntry k v l) : e = (k, v) ∨ e ∈ l := by
  induction l with
  | nil => simp_all [insertEntry]
  | cons a rest ih =>
    simp only [insertEntry] at h
    split at h
    · simpa using h
    · split at h
      · rcases List.mem_cons.1 h with h | h
        · exact .inr (by simp [h])
        · rcases ih h with h | h
          · exact .inl h
          · exact .inr (by simp [h])
      · rcases List.mem_cons.1 h with h | h
        · exact .inl h
        · exact .inr (by simp [h])

theorem sorted_insertEntry (k : String) (v : α) {l : List (String × α)}
    (h : l.Pairwise (·.1 < ·.1)) : (insertEntry k v l).Pairwise (·.1 < ·.1) := by
  induction l with
  | nil => simp [insertEntry]
  | cons a rest ih =>
    obtain ⟨j, w⟩ := a
    simp only [insertEntry]
    rw [List.pairwise_cons] at h
    split
    · next hk =>
      refine List.pairwise_cons.2 ⟨?_, List.pairwise_cons.2 h⟩
      intro e he
      rcases List.mem_cons.1 he with he | he
      · simpa [he] using hk
      · exact String.lt_trans hk (h.1 e he)
    · next hk =>
      split
      · next hj =>
        refine List.pairwise_cons.2 ⟨?_, ih h.2⟩
        intro e he
        rcases mem_insertEntry he with he | he
        · simpa [he] using hj
        · exact h.1 e he
      · next hj =>
        have hkj : k = j := String.le_antisymm (String.not_lt.1 hj) (String.not_lt.1 hk)
        subst hkj
        exact List.pairwise_cons.2 ⟨h.1, h.2⟩

def insert (t : Table α) (k : String) (v : α) : Table α :=
  ⟨insertEntry k v t.entries, sorted_insertEntry k v t.sorted⟩

def erase (t : Table α) (k : String) : Table α :=
  ⟨eraseEntry k t.entries, t.sorted.filter _⟩

def map (f : String → α → β) (t : Table α) : Table β :=
  ⟨t.entries.map (fun e => (e.1, f e.1 e.2)), by
    simpa [List.pairwise_map] using t.sorted⟩

/-- Replaces the value under a key, if it has one. -/
def modify (t : Table α) (k : String) (f : α → α) : Table α :=
  t.map (fun j v => if j = k then f v else v)

/-- The table of a list of entries; a later entry replaces an earlier one of its key. -/
def ofList (l : List (String × α)) : Table α :=
  l.foldl (fun t e => t.insert e.1 e.2) empty

theorem lookup_insertEntry (k : String) (v : α) (j : String) (l : List (String × α)) :
    lookup j (insertEntry k v l) = if k = j then some v else lookup j l := by
  induction l with
  | nil => simp [insertEntry, lookup]
  | cons a rest ih =>
    obtain ⟨i, w⟩ := a
    simp only [insertEntry]
    split
    · simp [lookup]
    · next hk =>
      split
      · next hi =>
        simp only [lookup, ih]
        by_cases hij : i = j
        · have : k ≠ j := fun hkj => String.lt_irrefl j (by simp [hij, hkj] at hi)
          simp [hij, this]
        · simp [hij]
      · next hi =>
        have hki : k = i := String.le_antisymm (String.not_lt.1 hi) (String.not_lt.1 hk)
        subst hki
        by_cases hkj : k = j <;> simp [lookup, hkj]

theorem lookup_eraseEntry (k j : String) (l : List (String × α)) :
    lookup j (eraseEntry k l) = if k = j then none else lookup j l := by
  induction l with
  | nil => simp [eraseEntry, lookup]
  | cons a rest ih =>
    obtain ⟨i, w⟩ := a
    by_cases hik : i = k
    · subst hik
      by_cases hij : i = j
      · subst hij; simpa [eraseEntry, lookup] using ih
      · simpa [eraseEntry, lookup, hij] using ih
    · by_cases hij : i = j
      · subst hij
        simp [eraseEntry, lookup, hik, Ne.symm hik]
      · simpa [eraseEntry, lookup, hik, hij] using ih

@[simp] theorem get?_empty (k : String) : (empty : Table α).get? k = none := rfl

theorem get?_insert (t : Table α) (k : String) (v : α) (j : String) :
    (t.insert k v).get? j = if k = j then some v else t.get? j :=
  lookup_insertEntry k v j t.entries

theorem get?_erase (t : Table α) (k j : String) :
    (t.erase k).get? j = if k = j then none else t.get? j :=
  lookup_eraseEntry k j t.entries

theorem get?_map (f : String → α → β) (t : Table α) (k : String) :
    (t.map f).get? k = (t.get? k).map (f k) := by
  obtain ⟨l, h⟩ := t
  simp only [map, get?]
  clear h
  induction l with
  | nil => rfl
  | cons a rest ih =>
    obtain ⟨j, w⟩ := a
    by_cases hj : j = k
    · subst hj; simp [lookup]
    · simp [lookup, hj, ih]

theorem lookup_eq_some_iff {k : String} {v : α} {l : List (String × α)}
    (h : l.Pairwise (·.1 < ·.1)) : lookup k l = some v ↔ (k, v) ∈ l := by
  induction l with
  | nil => simp [lookup]
  | cons a rest ih =>
    obtain ⟨j, w⟩ := a
    rw [List.pairwise_cons] at h
    by_cases hj : j = k
    · subst hj
      simp only [lookup, if_true, Option.some.injEq, List.mem_cons, Prod.mk.injEq, true_and]
      refine ⟨fun hw => .inl hw.symm, ?_⟩
      rintro (hw | hw)
      · exact hw.symm
      · exact absurd (h.1 _ hw) (String.lt_irrefl j)
    · simp only [lookup, hj, if_false, ih h.2, List.mem_cons, Prod.mk.injEq]
      exact ⟨.inr, fun hw => hw.elim (fun e => absurd e.1.symm hj) id⟩

theorem get?_eq_some_iff {t : Table α} {k : String} {v : α} :
    t.get? k = some v ↔ (k, v) ∈ t.entries :=
  lookup_eq_some_iff t.sorted

theorem entries_eq_of_mem_iff {l m : List (String × α)} (hl : l.Pairwise (·.1 < ·.1))
    (hm : m.Pairwise (·.1 < ·.1)) (h : ∀ e, e ∈ l ↔ e ∈ m) : l = m := by
  induction l generalizing m with
  | nil =>
    cases m with
    | nil => rfl
    | cons b rest => exact absurd ((h b).2 (by simp)) (by simp)
  | cons a rest ih =>
    cases m with
    | nil => exact absurd ((h a).1 (by simp)) (by simp)
    | cons b rest' =>
      rw [List.pairwise_cons] at hl hm
      have hab : a = b := by
        rcases List.mem_cons.1 ((h a).1 (by simp)) with hb | hb
        · exact hb
        · rcases List.mem_cons.1 ((h b).2 (by simp)) with ha | ha
          · exact ha.symm
          · exact absurd (String.lt_trans (hm.1 a hb) (hl.1 b ha)) (String.lt_irrefl _)
      subst hab
      congr 1
      refine ih hl.2 hm.2 (fun e => ?_)
      constructor
      · intro he
        rcases List.mem_cons.1 ((h e).1 (by simp [he])) with h' | h'
        · exact absurd (hl.1 e he) (by rw [h']; exact String.lt_irrefl _)
        · exact h'
      · intro he
        rcases List.mem_cons.1 ((h e).2 (by simp [he])) with h' | h'
        · exact absurd (hm.1 e he) (by rw [h']; exact String.lt_irrefl _)
        · exact h'

/-- **Extensionality.** Tables that answer every lookup alike are equal. -/
theorem ext_get? {s t : Table α} (h : ∀ k, s.get? k = t.get? k) : s = t := by
  have : s.entries = t.entries := by
    refine entries_eq_of_mem_iff s.sorted t.sorted (fun e => ?_)
    obtain ⟨k, v⟩ := e
    rw [← get?_eq_some_iff, ← get?_eq_some_iff, h]
  obtain ⟨l, hl⟩ := s
  obtain ⟨m, hm⟩ := t
  subst this
  rfl

end Table
end WorkspaceFleet
