import Mathlib.Data.List.Nodup
import WorkspaceFleet.Proofs.Results
import WorkspaceFleet.Table

/-!
# WorkspaceFleet.Proofs.Table

The values of a table, two tables side by side, and tables that are filled from lists.

A sum over the values is followed through a change by `values_insert_perm`, which takes the value
that was put in out to the front. A table is `Keyed` if every value stands under the key that
belongs to it, as servers and workspaces do. Tables that `Matches` relates have the same keys; a
table that is read value by value matches the one that is made of what was read
(`matches_ofList`).
-/

namespace WorkspaceFleet
namespace Table

variable {α β : Type}

@[simp] theorem get?_nothing (k : String) : (∅ : Table α).get? k = none := rfl

theorem get?_nothing_ne (k : String) (v : α) : (∅ : Table α).get? k ≠ some v := by
  rw [get?_nothing]
  nofun

@[simp] theorem get?_insert_self (t : Table α) (k : String) (v : α) :
    (t.insert k v).get? k = some v := by
  simp [get?_insert]

@[simp] theorem get?_erase_self (t : Table α) (k : String) : (t.erase k).get? k = none := by
  simp [get?_erase]

theorem get?_insert_of_ne {t : Table α} {j k : String} {v : α} (h : k ≠ j) :
    (t.insert k v).get? j = t.get? j := by
  simp [get?_insert, h]

theorem contains_eq_false_iff {t : Table α} {k : String} :
    t.contains k = false ↔ t.get? k = none := by
  simp [contains]

theorem contains_of_get? {t : Table α} {k : String} {v : α} (h : t.get? k = some v) :
    t.contains k = true := by
  rw [contains, h, Option.isSome_some]

theorem contains_insert (t : Table α) (k : String) (v : α) (j : String) :
    (t.insert k v).contains j = (k == j || t.contains j) := by
  rw [contains, get?_insert]
  split
  · next h => simp [h]
  · next h => simp [h, contains]

theorem contains_insert_of_get? {t : Table α} {k : String} {v : α} (h : t.get? k = some v) (v' : α)
    (j : String) : (t.insert k v').contains j = t.contains j := by
  rw [contains_insert]
  by_cases hj : k = j
  · rw [← hj, contains_of_get? h, Bool.or_true]
  · rw [beq_false_of_ne hj, Bool.false_or]

theorem contains_erase (t : Table α) (k j : String) :
    (t.erase k).contains j = (k != j && t.contains j) := by
  rw [contains, get?_erase]
  split
  · next h => simp [h]
  · next h => simp [h, contains]

theorem erase_of_get?_none {t : Table α} {k : String} (h : t.get? k = none) : t.erase k = t := by
  refine ext_get? fun j => ?_
  rw [get?_erase]
  split
  · next hj => rw [← hj, h]
  · rfl

theorem insert_of_get? {t : Table α} {k : String} {v : α} (h : t.get? k = some v) :
    t.insert k v = t := by
  refine ext_get? fun j => ?_
  rw [get?_insert]
  split
  · next hj => rw [← hj, h]
  · rfl

theorem insert_erase (t : Table α) (k : String) (v : α) :
    (t.erase k).insert k v = t.insert k v := by
  refine ext_get? fun j => ?_
  rw [get?_insert, get?_insert, get?_erase]
  split <;> rfl

theorem insert_insert (t : Table α) (k : String) (v w : α) :
    (t.insert k v).insert k w = t.insert k w := by
  refine ext_get? fun j => ?_
  rw [get?_insert, get?_insert, get?_insert]
  split <;> rfl

theorem map_insert (f : String → α → β) (t : Table α) (k : String) (v : α) :
    (t.insert k v).map f = (t.map f).insert k (f k v) := by
  refine ext_get? fun j => ?_
  rw [get?_map, get?_insert, get?_insert, get?_map]
  split
  · next hj => rw [hj, Option.map_some]
  · rfl

theorem map_erase (f : String → α → β) (t : Table α) (k : String) :
    (t.erase k).map f = (t.map f).erase k := by
  refine ext_get? fun j => ?_
  rw [get?_map, get?_erase, get?_erase, get?_map]
  split <;> rfl

theorem values_map (f : α → β) (t : Table α) : (t.map fun _ => f).values = t.values.map f := by
  rw [values, values, map, List.map_map, List.map_map]
  rfl

theorem mem_values_iff {t : Table α} {v : α} : v ∈ t.values ↔ ∃ k, t.get? k = some v := by
  simp only [values, List.mem_map, get?_eq_some_iff]
  constructor
  · rintro ⟨⟨k, w⟩, hmem, rfl⟩
    exact ⟨k, hmem⟩
  · rintro ⟨k, hmem⟩
    exact ⟨(k, v), hmem, rfl⟩

/-! ## Properties of every value -/

/-- Every value has a property. -/
def All (P : α → Prop) (t : Table α) : Prop := ∀ k v, t.get? k = some v → P v

namespace All

variable {P Q : α → Prop} {t : Table α}

theorem nothing : (∅ : Table α).All P := by
  intro k v h
  simp at h

theorem insert (h : t.All P) (k : String) {v : α} (hv : P v) : (t.insert k v).All P := by
  intro j w hw
  rw [get?_insert] at hw
  split at hw
  · cases hw
    exact hv
  · exact h j w hw

theorem erase (h : t.All P) (k : String) : (t.erase k).All P := by
  intro j w hw
  rw [get?_erase] at hw
  split at hw
  · cases hw
  · exact h j w hw

end All

/-! ## One value taken out to the front -/

theorem insertEntry_perm {k : String} (v : α) {l : List (String × α)} (h : lookup k l = none) :
    (insertEntry k v l).Perm ((k, v) :: l) := by
  induction l with
  | nil => exact .refl _
  | cons a rest ih =>
    obtain ⟨j, w⟩ := a
    have hj : j ≠ k := by
      rintro rfl
      simp [lookup] at h
    rw [lookup, if_neg hj] at h
    rw [insertEntry]
    split
    · exact .refl _
    · split
      · exact ((ih h).cons (j, w)).trans (.swap (k, v) (j, w) rest)
      · next hkj hjk =>
        have heq : j = k := String.le_antisymm (String.not_lt.1 hkj) (String.not_lt.1 hjk)
        exact absurd heq hj

theorem values_insert_perm (t : Table α) (k : String) (v : α) :
    (t.insert k v).values.Perm (v :: (t.erase k).values) := by
  rw [← insert_erase]
  exact (insertEntry_perm v (get?_erase_self t k)).map _

/-! ## Tables from lists -/

theorem keys_nodup (t : Table α) : t.keys.Nodup := by
  rw [keys, List.Nodup, List.pairwise_map]
  refine t.sorted.imp ?_
  intro a b hlt heq
  exact String.lt_irrefl b.1 (by rwa [heq] at hlt)

/-- Every value stands under its own key. -/
def Keyed (key : α → String) (t : Table α) : Prop := ∀ k v, t.get? k = some v → key v = k

theorem Keyed.nothing (key : α → String) : Keyed key (∅ : Table α) := by
  intro k v h
  simp at h

theorem Keyed.insert {key : α → String} {t : Table α} (h : t.Keyed key) {k : String} {v : α}
    (hv : key v = k) : (t.insert k v).Keyed key := by
  intro j w hw
  rw [get?_insert] at hw
  split at hw
  · next hj => cases hw; exact hv.trans hj
  · exact h j w hw

/-- A value in place of another of the same key. -/
theorem Keyed.replace {key : α → String} {t : Table α} (h : t.Keyed key) {k : String} {v v' : α}
    (found : t.get? k = some v) (hv : key v' = key v) : (t.insert k v').Keyed key :=
  h.insert (hv.trans (h k v found))

theorem Keyed.erase {key : α → String} {t : Table α} (h : t.Keyed key) (k : String) :
    (t.erase k).Keyed key := by
  intro j w hw
  rw [get?_erase] at hw
  split at hw
  · cases hw
  · exact h j w hw

theorem Keyed.keys_eq {key : α → String} {t : Table α} (h : t.Keyed key) :
    t.values.map key = t.keys := by
  rw [values, keys, List.map_map]
  refine List.map_congr_left fun e he => ?_
  exact h e.1 e.2 (get?_eq_some_iff.2 he)

variable {key : α → String} {f : α → β} {t : Table β}

theorem get?_foldl_insert_of_ne {l : List α} {k : String} (h : ∀ a ∈ l, key a ≠ k) :
    (l.foldl (fun t a => t.insert (key a) (f a)) t).get? k = t.get? k := by
  induction l generalizing t with
  | nil => rfl
  | cons a rest ih =>
    rw [List.foldl_cons, ih fun b hb => h b (List.mem_cons_of_mem a hb),
      get?_insert_of_ne (h a List.mem_cons_self)]

theorem get?_foldl_insert_of_mem {l : List α} (hl : (l.map key).Nodup) {a : α} (ha : a ∈ l) :
    (l.foldl (fun t a => t.insert (key a) (f a)) t).get? (key a) = some (f a) := by
  induction l generalizing t with
  | nil => cases ha
  | cons b rest ih =>
    rw [List.map_cons, List.nodup_cons] at hl
    rw [List.foldl_cons]
    rcases List.mem_cons.1 ha with rfl | hrest
    · have hne : ∀ c ∈ rest, key c ≠ key a := fun c hc heq =>
        hl.1 (heq ▸ List.mem_map_of_mem hc)
      rw [get?_foldl_insert_of_ne hne, get?_insert_self]
    · exact ih hl.2 hrest

/-- The entries of a table, in any order, make the table. -/
theorem ofList_perm {t : Table α} {l : List (String × α)} (order : l.Perm t.entries) :
    ofList l = t := by
  have hkeys : (l.map Prod.fst).Nodup := (order.map Prod.fst).nodup_iff.2 t.keys_nodup
  refine ext_get? fun k => ?_
  rw [ofList]
  cases hk : t.get? k with
  | some v => exact get?_foldl_insert_of_mem hkeys (order.mem_iff.2 (get?_eq_some_iff.1 hk))
  | none =>
    refine get?_foldl_insert_of_ne (l := l) fun e he heq => ?_
    have := get?_eq_some_iff.2 (order.mem_iff.1 he)
    rw [heq, hk] at this
    cases this

/-! ## Two tables side by side -/

/-- Both tables have the same keys, and the values under each are related. -/
def Matches (R : α → β → Prop) (t : Table α) (u : Table β) : Prop :=
  ∀ k, (t.get? k = none ∧ u.get? k = none) ∨
    ∃ a b, t.get? k = some a ∧ u.get? k = some b ∧ R a b

namespace Matches

variable {R : α → β → Prop} {t : Table α} {u : Table β}

theorem nothing (R : α → β → Prop) : Matches R ∅ ∅ := fun _ => .inl ⟨rfl, rfl⟩

theorem insert (h : Matches R t u) (k : String) {a : α} {b : β} (hab : R a b) :
    Matches R (t.insert k a) (u.insert k b) := by
  intro j
  rw [get?_insert, get?_insert]
  split
  · exact .inr ⟨a, b, rfl, rfl, hab⟩
  · exact h j

theorem erase (h : Matches R t u) (k : String) : Matches R (t.erase k) (u.erase k) := by
  intro j
  rw [get?_erase, get?_erase]
  split
  · exact .inl ⟨rfl, rfl⟩
  · exact h j

theorem refl {R : α → α → Prop} (h : ∀ k a, t.get? k = some a → R a a) : Matches R t t := by
  intro k
  cases hk : t.get? k with
  | none => exact .inl ⟨rfl, rfl⟩
  | some a => exact .inr ⟨a, a, rfl, rfl, h k a hk⟩

/-- Another value in the place of one on the right. -/
theorem insert_right (h : Matches R t u) {k : String} {a : α} {b : β} (ha : t.get? k = some a)
    (hab : R a b) : Matches R t (u.insert k b) := by
  have := h.insert k hab
  rwa [insert_of_get? ha] at this

theorem contains_eq (h : Matches R t u) (k : String) : u.contains k = t.contains k := by
  rcases h k with ⟨ht, hu⟩ | ⟨a, b, ha, hb, -⟩
  · rw [contains_eq_false_iff.2 ht, contains_eq_false_iff.2 hu]
  · rw [contains_of_get? ha, contains_of_get? hb]

theorem imp {S : α → β → Prop} (h : Matches R t u)
    (hRS : ∀ k a b, t.get? k = some a → u.get? k = some b → R a b → S a b) : Matches S t u := by
  intro k
  rcases h k with hnone | ⟨a, b, ha, hb, hab⟩
  · exact .inl hnone
  · exact .inr ⟨a, b, ha, hb, hRS k a b ha hb hab⟩

theorem some_left (h : Matches R t u) {k : String} {a : α} (ha : t.get? k = some a) :
    ∃ b, u.get? k = some b ∧ R a b := by
  rcases h k with ⟨hnone, -⟩ | ⟨a', b, ha', hb, hab⟩
  · rw [ha] at hnone
    cases hnone
  · rw [ha] at ha'
    cases ha'
    exact ⟨b, hb, hab⟩

theorem some_right (h : Matches R t u) {k : String} {b : β} (hb : u.get? k = some b) :
    ∃ a, t.get? k = some a ∧ R a b := by
  rcases h k with ⟨-, hnone⟩ | ⟨a, b', ha, hb', hab⟩
  · rw [hb] at hnone
    cases hnone
  · rw [hb] at hb'
    cases hb'
    exact ⟨a, ha, hab⟩

theorem none_left (h : Matches R t u) {k : String} (ht : t.get? k = none) : u.get? k = none := by
  rcases h k with ⟨-, hu⟩ | ⟨a, b, ha, -, -⟩
  · exact hu
  · rw [ht] at ha
    cases ha

/-- Two tables that match one and the same match each other. -/
theorem join {γ : Type} {S : α → γ → Prop} {v : Table γ} (h : Matches R t u)
    (h' : Matches S t v) : Matches (fun b c => ∃ a, R a b ∧ S a c) u v := by
  intro k
  rcases h k with ⟨ht, hu⟩ | ⟨a, b, ha, hb, hab⟩
  · rcases h' k with ⟨-, hv⟩ | ⟨a, c, ha, -, -⟩
    · exact .inl ⟨hu, hv⟩
    · rw [ht] at ha
      cases ha
  · obtain ⟨c, hc, hac⟩ := h'.some_left ha
    exact .inr ⟨b, c, hb, hc, a, hab, hac⟩

/-- A matching table of the same kind is the table with other values. -/
theorem eq_map {R : α → α → Prop} {u : Table α} (h : Matches R t u) :
    u = t.map fun k a => (u.get? k).getD a := by
  refine ext_get? fun k => ?_
  rw [get?_map]
  rcases h k with ⟨ht, hu⟩ | ⟨a, b, ha, hb, -⟩
  · rw [ht, hu]
    rfl
  · rw [ha, hb]
    rfl

theorem eq_of_eq {u : Table α} (h : Matches (fun a b => b = a) t u) : u = t := by
  refine ext_get? fun k => ?_
  rcases h k with ⟨ht, hu⟩ | ⟨a, b, ha, hb, rfl⟩
  · rw [ht, hu]
  · rw [ha, hb]

end Matches

/-! ## Tables read value by value -/

variable {γ ε : Type}

theorem keys_of_mapM {f : α → Except ε β} {key : β → String} {es : List (String × α)} {l : List β}
    (h : (es.map (·.2)).mapM f = .ok l)
    (hkey : ∀ e ∈ es, ∀ b, f e.2 = .ok b → key b = e.1) : l.map key = es.map (·.1) := by
  induction es generalizing l with
  | nil =>
    cases h
    rfl
  | cons e rest ih =>
    obtain ⟨b, bs, hb, hbs, rfl⟩ := mapM_cons_eq_ok.1 h
    rw [List.map_cons, List.map_cons, hkey e List.mem_cons_self b hb,
      ih hbs fun e' he' => hkey e' (List.mem_cons_of_mem e he')]

/-- **A table read value by value.** If every value is read as one that has its key, filing what was
read gives a matching table. -/
theorem matches_ofList {f : α → Except ε β} {key : β → String} {t : Table α} {l : List β}
    (h : t.values.mapM f = .ok l)
    (hkey : ∀ k a b, t.get? k = some a → f a = .ok b → key b = k) (g : β → γ) :
    Matches (fun a c => (f a).map g = .ok c) t (ofList (l.map fun b => (key b, g b))) := by
  have hkeys : l.map key = t.keys := by
    refine keys_of_mapM h ?_
    intro e he b hb
    exact hkey e.1 e.2 b (get?_eq_some_iff.2 he) hb
  intro k
  rw [ofList, List.foldl_map]
  cases hk : t.get? k with
  | some a =>
    obtain ⟨b, hmem, hb⟩ := exists_of_mapM_eq_ok h (mem_values_iff.2 ⟨k, hk⟩)
    have hnodup : (l.map key).Nodup := hkeys ▸ t.keys_nodup
    have hget := get?_foldl_insert_of_mem (f := g) (t := empty) hnodup hmem
    rw [hkey k a b hk hb] at hget
    rw [hget]
    refine .inr ⟨a, g b, rfl, rfl, ?_⟩
    show (f a).map g = .ok (g b)
    rw [hb]
    rfl
  | none =>
    have hne : ∀ b ∈ l, key b ≠ k := by
      rintro b hb rfl
      have hmem : key b ∈ t.keys := hkeys ▸ List.mem_map_of_mem hb
      obtain ⟨e, he, heq⟩ := List.mem_map.1 hmem
      have := get?_eq_some_iff.2 he
      rw [heq, hk] at this
      cases this
    rw [get?_foldl_insert_of_ne hne]
    exact .inl ⟨rfl, rfl⟩

end Table
end WorkspaceFleet
