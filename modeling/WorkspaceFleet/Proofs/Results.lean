import Mathlib.Data.List.Basic

/-!
# WorkspaceFleet.Proofs.Results

When a computation that may fail succeeds. There is one equivalence for each way of putting such
computations together, so a `do` block is inverted by rewriting with them; `exists_mapM_eq_ok` says
that a list is gone through to its end if and only if no entry fails.
-/

namespace WorkspaceFleet

variable {α β ε ε' : Type}

theorem bind_eq_ok {x : Except ε α} {f : α → Except ε β} {b : β} :
    (x >>= f) = .ok b ↔ ∃ a, x = .ok a ∧ f a = .ok b := by
  cases x with
  | error e => simp [bind, Except.bind]
  | ok a => simp [bind, Except.bind]

theorem pure_eq_ok {a b : α} : (pure a : Except ε α) = .ok b ↔ b = a := by
  simp [pure, Except.pure, eq_comm]

/-- What is made of a result has every property that it has whatever the result is. -/
theorem of_bind_pure {x : Except ε α} {f : α → β} {b : β} {P : β → Prop}
    (h : (do return f (← x)) = .ok b) (each : ∀ a, x = .ok a → P (f a)) : P b := by
  obtain ⟨a, ha, hb⟩ := bind_eq_ok.1 h
  cases hb
  exact each a ha

theorem map_eq_ok {x : Except ε α} {f : α → β} {b : β} :
    x.map f = .ok b ↔ ∃ a, x = .ok a ∧ b = f a := by
  cases x with
  | error e => simp [Except.map]
  | ok a => simp [Except.map, eq_comm]

theorem exists_map_eq_ok {x : Except ε α} {f : α → β} :
    (∃ b, x.map f = .ok b) ↔ ∃ a, x = .ok a := by
  cases x with
  | error e => simp [Except.map]
  | ok a => simp [Except.map]

theorem mapError_eq_ok {x : Except ε α} {f : ε → ε'} {a : α} :
    x.mapError f = .ok a ↔ x = .ok a := by
  cases x with
  | error e => simp [Except.mapError]
  | ok b => simp [Except.mapError]

theorem eq_ok_of_toOption {x : Except ε α} {a : α} (h : x.toOption = some a) : x = .ok a := by
  cases x with
  | error e => cases h
  | ok b =>
    cases h
    rfl

/-! ## Lists -/

theorem mapM_cons_eq_ok {f : α → Except ε β} {a : α} {as : List α} {l : List β} :
    (a :: as).mapM f = .ok l ↔ ∃ b bs, f a = .ok b ∧ as.mapM f = .ok bs ∧ l = b :: bs := by
  rw [List.mapM_cons]
  simp only [bind_eq_ok, pure_eq_ok]
  constructor
  · rintro ⟨b, hb, bs, hbs, rfl⟩
    exact ⟨b, bs, hb, hbs, rfl⟩
  · rintro ⟨b, bs, hb, hbs, rfl⟩
    exact ⟨b, hb, bs, hbs, rfl⟩

theorem mapM_eq_ok {f : α → Except ε β} {g : α → β} {as : List α}
    (h : ∀ a ∈ as, f a = .ok (g a)) : as.mapM f = .ok (as.map g) := by
  induction as with
  | nil => rfl
  | cons a rest ih =>
    exact mapM_cons_eq_ok.2 ⟨_, _, h a List.mem_cons_self,
      ih fun b hb => h b (List.mem_cons_of_mem a hb), rfl⟩

/-- Every entry is gone through if and only if none of them fails. -/
theorem exists_mapM_eq_ok {f : α → Except ε β} {as : List α} :
    (∃ l, as.mapM f = .ok l) ↔ ∀ a ∈ as, ∃ b, f a = .ok b := by
  induction as with
  | nil =>
    constructor
    · intro _ a ha
      cases ha
    · intro _
      exact ⟨[], rfl⟩
  | cons a rest ih =>
    rw [List.forall_mem_cons, ← ih]
    constructor
    · rintro ⟨l, hl⟩
      obtain ⟨b, bs, hb, hbs, -⟩ := mapM_cons_eq_ok.1 hl
      exact ⟨⟨b, hb⟩, ⟨bs, hbs⟩⟩
    · rintro ⟨⟨b, hb⟩, ⟨bs, hbs⟩⟩
      exact ⟨b :: bs, mapM_cons_eq_ok.2 ⟨b, bs, hb, hbs, rfl⟩⟩

theorem exists_of_mapM_eq_ok {f : α → Except ε β} {as : List α} {l : List β}
    (h : as.mapM f = .ok l) {a : α} (ha : a ∈ as) : ∃ b ∈ l, f a = .ok b := by
  induction as generalizing l with
  | nil => cases ha
  | cons c rest ih =>
    obtain ⟨b, bs, hb, hbs, rfl⟩ := mapM_cons_eq_ok.1 h
    rcases List.mem_cons.1 ha with rfl | hrest
    · exact ⟨b, List.mem_cons_self, hb⟩
    · obtain ⟨b', hb', hf⟩ := ih hbs hrest
      exact ⟨b', List.mem_cons_of_mem b hb', hf⟩

/-- What comes of every entry has a property that comes of each. -/
theorem forall_of_mapM_eq_ok {f : α → Except ε β} {P : β → Prop}
    (h : ∀ a b, f a = .ok b → P b) {as : List α} {l : List β} (hl : as.mapM f = .ok l) :
    ∀ b ∈ l, P b := by
  induction as generalizing l with
  | nil =>
    cases hl
    exact fun b hb => nomatch hb
  | cons a rest ih =>
    obtain ⟨b, bs, hb, hbs, rfl⟩ := mapM_cons_eq_ok.1 hl
    exact List.forall_mem_cons.2 ⟨h a b hb, ih hbs⟩

/-- A loop that only looks whether it can go on. -/
theorem forIn_eq_ok {f : α → Except ε β} {as : List α} :
    (forIn as PUnit.unit fun a _ => do
      let _ ← f a
      pure (ForInStep.yield PUnit.unit)) = (.ok PUnit.unit : Except ε PUnit) ↔
      ∀ a ∈ as, ∃ b, f a = .ok b := by
  induction as with
  | nil => exact iff_of_true rfl nofun
  | cons a rest ih =>
    rw [List.forIn_cons, List.forall_mem_cons, ← ih]
    cases f a with
    | error e => exact iff_of_false nofun fun h => nomatch h.1
    | ok b => exact ⟨fun h => ⟨⟨b, rfl⟩, h⟩, fun h => h.2⟩

/-- What every step keeps is there at the end. -/
theorem foldlM_keeps {f : β → α → Except ε β} {P : β → Prop} {as : List α}
    (h : ∀ a ∈ as, ∀ b b', f b a = .ok b' → P b → P b') {b b' : β}
    (hb : as.foldlM f b = .ok b') (start : P b) : P b' := by
  induction as generalizing b with
  | nil =>
    cases hb
    exact start
  | cons a rest ih =>
    rw [List.foldlM_cons, bind_eq_ok] at hb
    obtain ⟨c, hc, hrest⟩ := hb
    rw [List.forall_mem_cons] at h
    exact ih h.2 hrest (h.1 b c hc start)

end WorkspaceFleet
