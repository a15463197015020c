import WorkspaceFleet.Proofs.Encoding
import WorkspaceFleet.Proofs.Numerals

/-!
# WorkspaceFleet.Proofs.Compact

A compact JSON text is read as the document it was written from.

Every character of a text is read as it was, however it is escaped (`Json.parseText_quoted`). A
document is `Writable` if its whole numbers fit their words, its other numbers read back, and it
nests no deeper than the reader goes; then its text gives back the document, with its numbers read
again: `Json.parse_compact`. This is what `Store.reread` stands for.
-/

namespace WorkspaceFleet
namespace Json

/-! ## Texts -/

theorem hexValue?_hexDigit {n : Nat} (h : n < 16) : hexValue? (Text.hexDigit n) = some n := by
  have hall : ∀ m : Fin 16, hexValue? (Text.hexDigit m) = some m.val := by decide
  exact hall ⟨n, h⟩

/-- **A character is read as it was**, escaped or not. -/
theorem parseText_escapeChar (fuel : Nat) (acc : List Char) (c : Char) (rest : List Char) :
    parseText (fuel + 1) acc (escapeChar c ++ rest) = parseText fuel (c :: acc) rest := by
  unfold escapeChar
  split
  iterate 7 rfl
  next _ hquote hslash _ _ _ _ _ =>
  split
  · next hcontrol =>
    have hhigh := hexValue?_hexDigit (show c.toNat / 16 < 16 by omega)
    have hlow := hexValue?_hexDigit (show c.toNat % 16 < 16 by omega)
    have hhex : hex4? ('0' :: '0' :: Text.hexDigit (c.toNat / 16) :: Text.hexDigit (c.toNat % 16) ::
        rest) = some (c.toNat, rest) := by
      have hzero : hexValue? '0' = some 0 := by decide
      simp only [hex4?, hzero, hhigh, hlow, Option.bind_eq_bind, Option.bind_some, Option.pure_def,
        Nat.zero_mul, Nat.zero_add, Nat.div_add_mod']
    have hescape : escape? ('u' :: '0' :: '0' :: Text.hexDigit (c.toNat / 16) ::
        Text.hexDigit (c.toNat % 16) :: rest) = some (c, rest) := by
      rw [escape?, hhex]
      dsimp only
      rw [if_pos (Or.inl (by omega)), Char.ofNat_toNat]
    simp only [List.cons_append, List.nil_append, parseText, hescape]
  · next hplain =>
    rw [List.singleton_append, parseText]
    · rw [if_neg hplain]
    · exact hquote
    · exact hslash

theorem length_le_flatMap_escapeChar (cs : List Char) :
    cs.length ≤ (cs.flatMap escapeChar).length := by
  have hone : ∀ c, 1 ≤ (escapeChar c).length := by
    intro c
    unfold escapeChar
    split
    iterate 7 decide
    split <;> simp
  induction cs with
  | nil => exact Nat.le_refl 0
  | cons c cs ih =>
    rw [List.flatMap_cons, List.length_append, List.length_cons, Nat.add_comm]
    exact Nat.add_le_add (hone c) ih

/-- **A text is read as it was**, up to its closing quote. -/
theorem parseText_quoted (cs rest : List Char) {fuel : Nat} (h : cs.length < fuel)
    (acc : List Char) :
    parseText fuel acc (cs.flatMap escapeChar ++ '"' :: rest) =
      some (String.ofList (acc.reverse ++ cs), rest) := by
  induction cs generalizing fuel acc with
  | nil =>
    cases fuel with
    | zero => cases h
    | succ fuel =>
      rw [List.append_nil]
      rfl
  | cons c cs ih =>
    cases fuel with
    | zero => cases h
    | succ fuel =>
      rw [List.flatMap_cons, List.append_assoc, parseText_escapeChar,
        ih (Nat.lt_of_succ_lt_succ h), List.reverse_cons, List.append_assoc, List.singleton_append]

/-! ## Documents -/

theorem reread_list (items : List (Document Float)) :
    Store.reread (.list items) = .list (items.map Store.reread) := by
  rw [Store.reread, Document.mapReal]
  congr 1
  induction items with
  | nil => rfl
  | cons d rest ih =>
    rw [Document.mapRealItems, ih]
    rfl

/-- The document can be written and read: its whole numbers fit their words, its other numbers read
back, and its lists and records nest no deeper than that. -/
inductive Writable : Nat → Document Float → Prop where
  | null {depth : Nat} : Writable depth .null
  | bool {depth : Nat} {b : Bool} : Writable depth (.bool b)
  | int {depth : Nat} {n : Int} (low : -(halfWord64 : Int) ≤ n) (high : n < word64) :
      Writable depth (.int n)
  | real {depth : Nat} {x : Float} (readable : Quantity.Readable x) : Writable depth (.real x)
  | text {depth : Nat} {s : String} : Writable depth (.text s)
  | list {depth : Nat} {items : List (Document Float)} (each : ∀ d ∈ items, Writable depth d) :
      Writable (depth + 1) (.list items)
  | record {depth : Nat} {fields : List (String × Document Float)}
      (each : ∀ e ∈ fields, Writable depth e.2) : Writable (depth + 1) (.record fields)

/-- The characters of a document. -/
def chars (d : Document Float) : List Char := (compact Text.Real.text d).toList

def fieldChars (e : String × Document Float) : List Char := (quote e.1).toList ++ ':' :: chars e.2

theorem compactItems_eq_map (items : List (Document Float)) :
    compactItems Text.Real.text items = items.map (compact Text.Real.text) := by
  induction items with
  | nil => rfl
  | cons d rest ih => rw [compactItems, ih, List.map_cons]

theorem compactFields_eq_map (fields : List (String × Document Float)) :
    compactFields Text.Real.text fields =
      fields.map fun e => quote e.1 ++ ":" ++ compact Text.Real.text e.2 := by
  induction fields with
  | nil => rfl
  | cons e rest ih => rw [compactFields, ih, List.map_cons]

theorem toList_quote (s : String) :
    (quote s).toList = '"' :: (s.toList.flatMap escapeChar ++ ['"']) := by
  rw [quote, String.toList_ofList]
  rfl

theorem chars_list (items : List (Document Float)) :
    chars (.list items) = '[' :: ([','].intercalate (items.map chars) ++ [']']) := by
  rw [chars, compact, String.toList_append, String.toList_append, String.toList_intercalate,
    compactItems_eq_map, List.map_map]
  rfl

theorem chars_record (fields : List (String × Document Float)) :
    chars (.record fields) = '\x7b' :: ([','].intercalate (fields.map fieldChars) ++ ['\x7d']) := by
  rw [chars, compact, String.toList_append, String.toList_append, String.toList_intercalate,
    compactFields_eq_map, List.map_map]
  have hfield : String.toList ∘ (fun e => quote e.1 ++ ":" ++ compact Text.Real.text e.2) =
      fieldChars := by
    funext e
    rw [Function.comp_apply, String.toList_append, String.toList_append, List.append_assoc]
    rfl
  rw [hfield]
  rfl

/-- The reader gives back the document with its numbers read again, and goes on behind it. -/
def Reads (depth : Nat) (d : Document Float) : Prop :=
  ∀ fuel rest, 2 * (chars d).length ≤ fuel → Ends rest →
    parseValue fuel depth (chars d ++ rest) = some (Store.reread d, rest)

theorem ends_cons {c : Char}
    (h : Text.Decimal.isDigit c = false ∧ c ≠ '.' ∧ c ≠ 'e' ∧ c ≠ 'E') (rest : List Char) :
    Ends (c :: rest) := by
  rintro _ ⟨⟩
  exact h

theorem skipSpace_cons {c : Char} (hc : isSpace c = false) (cs : List Char) :
    skipSpace (c :: cs) = c :: cs := by
  rw [skipSpace, List.dropWhile_cons_of_neg]
  rw [hc]
  exact Bool.false_ne_true

theorem isSpace_of_number {c : Char} (hc : c = '-' ∨ Text.Decimal.isDigit c = true) :
    isSpace c = false := by
  rw [← Bool.not_eq_true]
  intro hspace
  simp only [isSpace, Bool.or_eq_true, beq_iff_eq] at hspace
  rcases hspace with ((rfl | rfl) | rfl) | rfl <;> exact absurd hc (by decide)

/-- A number is read as one, as no other value begins so. -/
theorem parseValue_number {c : Char} (hc : c = '-' ∨ Text.Decimal.isDigit c = true)
    (fuel depth : Nat) (cs : List Char) :
    parseValue (fuel + 1) depth (c :: cs) = parseNumber (c :: cs) := by
  rw [parseValue, skipSpace_cons (isSpace_of_number hc)]
  split <;> first
    | rfl
    | next heq =>
      cases heq
      exact absurd hc (by decide)

/-- A document's text begins with no blank and with no closing bracket. -/
theorem Writable.first {depth : Nat} {d : Document Float} (h : Writable depth d) :
    ∃ c cs, chars d = c :: cs ∧ isSpace c = false ∧ c ≠ ']' := by
  have hnumber : ∀ {n : Text.Numeral}, n.Proper →
      ∃ c cs, n.text.toList = c :: cs ∧ isSpace c = false ∧ c ≠ ']' := by
    intro n proper
    obtain ⟨c, cs, hcons, hc⟩ := proper.first
    refine ⟨c, cs, hcons, isSpace_of_number hc, ?_⟩
    rintro rfl
    exact absurd hc (by decide)
  cases h with
  | null => exact ⟨'n', _, rfl, rfl, by decide⟩
  | bool =>
    rename_i b
    cases b with
    | true => exact ⟨'t', _, rfl, rfl, by decide⟩
    | false => exact ⟨'f', _, rfl, rfl, by decide⟩
  | int low high =>
    obtain ⟨c, cs, hcons, hc⟩ := hnumber (Text.Numeral.proper_ofInt _)
    rw [Text.Numeral.text_ofInt] at hcons
    exact ⟨c, cs, hcons, hc⟩
  | real readable => exact hnumber (Text.Numeral.proper_ofFloat _).1
  | text => exact ⟨'"', _, toList_quote _, rfl, by decide⟩
  | list each => exact ⟨'[', _, chars_list _, rfl, by decide⟩
  | record each => exact ⟨'\x7b', _, chars_record _, rfl, by decide⟩

theorem parseItems_step {depth fuel : Nat} {d : Document Float} (reads : Reads depth d)
    (enough : 2 * (chars d).length ≤ fuel) (acc : List (Document Float)) (rest : List Char) :
    parseItems (fuel + 1) depth acc (chars d ++ ',' :: rest) =
        parseItems fuel depth (Store.reread d :: acc) rest ∧
      parseItems (fuel + 1) depth acc (chars d ++ ']' :: rest) =
        some ((Store.reread d :: acc).reverse, rest) := by
  constructor
  · rw [parseItems, reads fuel _ enough (ends_cons (by decide) rest)]
    rfl
  · rw [parseItems, reads fuel _ enough (ends_cons (by decide) rest)]
    rfl

/-- The items of a list, one after the other, up to its bracket. -/
theorem parseItems_of_reads {depth : Nat} {items : List (Document Float)} (nonempty : items ≠ [])
    (reads : ∀ d ∈ items, Reads depth d) (fuel : Nat) (acc : List (Document Float))
    (rest : List Char)
    (enough : 2 * (([','].intercalate (items.map chars)).length + 1) ≤ fuel) :
    parseItems fuel depth acc ([','].intercalate (items.map chars) ++ ']' :: rest) =
      some (acc.reverse ++ items.map Store.reread, rest) := by
  induction items generalizing fuel acc with
  | nil => exact absurd rfl nonempty
  | cons d items ih =>
    obtain ⟨fuel, rfl⟩ : ∃ k, fuel = k + 1 := Nat.exists_eq_add_one.2 (by omega)
    have hstep (h : 2 * (chars d).length ≤ fuel) :=
      parseItems_step (reads d List.mem_cons_self) h acc
    cases items with
    | nil =>
      simp only [List.map_cons, List.map_nil, List.intercalate_singleton] at enough ⊢
      rw [(hstep (by omega) rest).2, List.reverse_cons]
    | cons d' items =>
      have hrest := ih (List.cons_ne_nil _ _) (fun e he => reads e (List.mem_cons_of_mem d he))
        fuel (Store.reread d :: acc)
      simp only [List.map_cons, List.intercalate_cons_cons, List.append_assoc, List.cons_append,
        List.nil_append, List.length_append, List.length_cons] at enough hrest ⊢
      rw [(hstep (by omega) _).1, hrest (by omega), List.reverse_cons, List.append_assoc]
      rfl

theorem parseFields_step {depth fuel : Nat} {e : String × Document Float} (reads : Reads depth e.2)
    (enough : 2 * (fieldChars e).length ≤ fuel) (acc : List (String × Document Float))
    (rest : List Char) :
    parseFields (fuel + 1) depth acc (fieldChars e ++ ',' :: rest) =
        parseFields fuel depth ((e.1, Store.reread e.2) :: acc) rest ∧
      parseFields (fuel + 1) depth acc (fieldChars e ++ '\x7d' :: rest) =
        some (((e.1, Store.reread e.2) :: acc).reverse, rest) := by
  have hfield : ∀ r, fieldChars e ++ r =
      '"' :: (e.1.toList.flatMap escapeChar ++ '"' :: ':' :: (chars e.2 ++ r)) := by
    intro r
    rw [fieldChars, toList_quote]
    simp only [List.cons_append, List.append_assoc, List.nil_append]
  have hlength : (fieldChars e).length =
      (e.1.toList.flatMap escapeChar).length + (chars e.2).length + 3 := by
    rw [fieldChars, toList_quote]
    simp only [List.length_append, List.length_cons, List.length_nil]
    omega
  have hkey : ∀ r, parseText fuel [] (e.1.toList.flatMap escapeChar ++ '"' :: ':' :: r) =
      some (e.1, ':' :: r) := by
    intro r
    have := length_le_flatMap_escapeChar e.1.toList
    rw [parseText_quoted _ _ (by omega), List.reverse_nil, List.nil_append, String.ofList_toList]
  have hvalue := fun rest => reads fuel rest (by omega)
  have hquote : ∀ r, skipSpace ('"' :: r) = '"' :: r := fun _ => rfl
  have hcolon : ∀ r, skipSpace (':' :: r) = ':' :: r := fun _ => rfl
  constructor
  · rw [hfield]
    simp only [parseFields, hquote, hkey, hcolon]
    rw [hvalue _ (ends_cons (by decide) rest)]
    rfl
  · rw [hfield]
    simp only [parseFields, hquote, hkey, hcolon]
    rw [hvalue _ (ends_cons (by decide) rest)]
    rfl

/-- The fields of a record, one after the other, up to its bracket. -/
theorem parseFields_of_reads {depth : Nat} {fields : List (String × Document Float)}
    (nonempty : fields ≠ []) (reads : ∀ e ∈ fields, Reads depth e.2) (fuel : Nat)
    (acc : List (String × Document Float)) (rest : List Char)
    (enough : 2 * (([','].intercalate (fields.map fieldChars)).length + 1) ≤ fuel) :
    parseFields fuel depth acc ([','].intercalate (fields.map fieldChars) ++ '\x7d' :: rest) =
      some (acc.reverse ++ fields.map (fun e => (e.1, Store.reread e.2)), rest) := by
  induction fields generalizing fuel acc with
  | nil => exact absurd rfl nonempty
  | cons e fields ih =>
    obtain ⟨fuel, rfl⟩ : ∃ k, fuel = k + 1 := Nat.exists_eq_add_one.2 (by omega)
    have hstep (h : 2 * (fieldChars e).length ≤ fuel) :=
      parseFields_step (reads e List.mem_cons_self) h acc
    cases fields with
    | nil =>
      simp only [List.map_cons, List.map_nil, List.intercalate_singleton] at enough ⊢
      rw [(hstep (by omega) rest).2, List.reverse_cons]
    | cons e' fields =>
      have hrest := ih (List.cons_ne_nil _ _) (fun x hx => reads x (List.mem_cons_of_mem e hx))
        fuel ((e.1, Store.reread e.2) :: acc)
      simp only [List.map_cons, List.intercalate_cons_cons, List.append_assoc, List.cons_append,
        List.nil_append, List.length_append, List.length_cons] at enough hrest ⊢
      rw [(hstep (by omega) _).1, hrest (by omega), List.reverse_cons, List.append_assoc]
      rfl

theorem Writable.reads_of_succ {depth : Nat} {d : Document Float} (h : Writable depth d)
    (step : ∀ fuel rest, 2 * (chars d).length ≤ fuel + 1 → Ends rest →
      parseValue (fuel + 1) depth (chars d ++ rest) = some (Store.reread d, rest)) :
    Reads depth d := by
  intro fuel rest enough ends
  obtain ⟨c, cs, hcons, -⟩ := h.first
  obtain ⟨fuel, rfl⟩ : ∃ k, fuel = k + 1 := by
    rw [hcons, List.length_cons] at enough
    exact Nat.exists_eq_add_one.2 (by omega)
  exact step fuel rest enough ends

theorem reads_number {n : Text.Numeral} (proper : n.Proper) {rest : List Char}
    {answer : Option (Document Float × List Char)}
    (h : parseNumber (n.text.toList ++ rest) = answer) (fuel depth : Nat) :
    parseValue (fuel + 1) depth (n.text.toList ++ rest) = answer := by
  obtain ⟨c, cs, hcons, hc⟩ := proper.first
  rw [hcons, List.cons_append] at h ⊢
  rw [parseValue_number hc, h]

theorem reads_text (depth : Nat) (s : String) : Reads depth (.text s) := by
  refine Writable.text.reads_of_succ fun fuel rest enough ends => ?_
  have hchars : chars (.text s) = _ := toList_quote s
  have hlength := length_le_flatMap_escapeChar s.toList
  rw [hchars] at enough ⊢
  simp only [List.length_cons, List.length_append, List.length_nil] at enough
  show (parseText fuel [] (_ ++ rest)).map _ = _
  rw [List.append_assoc, List.singleton_append, parseText_quoted _ _ (by omega),
    List.reverse_nil, List.nil_append, String.ofList_toList]
  rfl

theorem exists_intercalate_cons {l : List Char} {c : Char} {cs : List Char} (h : l = c :: cs)
    (ls : List (List Char)) : ∃ cs', [','].intercalate (l :: ls) = c :: cs' := by
  subst h
  cases ls with
  | nil => exact ⟨cs, List.intercalate_singleton⟩
  | cons l' ls => exact ⟨_, List.intercalate_cons_cons⟩

/-- Behind its bracket a list has its items, unless that begins with the other bracket. -/
theorem parseValue_items {c : Char} (hspace : isSpace c = false) (hc : c ≠ ']')
    (fuel depth : Nat) (cs : List Char) :
    parseValue (fuel + 1) (depth + 1) ('[' :: c :: cs) =
      (parseItems fuel depth [] (c :: cs)).map fun p => (.list p.1, p.2) := by
  have hopen : ∀ r, skipSpace ('[' :: r) = '[' :: r := fun _ => rfl
  simp only [parseValue, hopen, skipSpace_cons hspace]
  split
  · next heq =>
    cases heq
    exact absurd rfl hc
  · rfl

theorem parseValue_fields {c : Char} (hspace : isSpace c = false) (hc : c ≠ '\x7d')
    (fuel depth : Nat) (cs : List Char) :
    parseValue (fuel + 1) (depth + 1) ('\x7b' :: c :: cs) =
      (parseFields fuel depth [] (c :: cs)).map fun p => (.record p.1, p.2) := by
  have hopen : ∀ r, skipSpace ('\x7b' :: r) = '\x7b' :: r := fun _ => rfl
  simp only [parseValue, hopen, skipSpace_cons hspace]
  split
  · next heq =>
    cases heq
    exact absurd rfl hc
  · rfl

theorem reads_list {depth : Nat} {items : List (Document Float)}
    (each : ∀ d ∈ items, Writable depth d) (reads : ∀ d ∈ items, Reads depth d) :
    Reads (depth + 1) (.list items) := by
  refine (Writable.list each).reads_of_succ fun fuel rest enough ends => ?_
  rw [chars_list] at enough ⊢
  rw [reread_list]
  cases items with
  | nil => rfl
  | cons d items =>
    simp only [List.length_cons, List.length_append, List.length_nil] at enough
    have hitems := parseItems_of_reads (List.cons_ne_nil d items) reads fuel [] rest (by omega)
    obtain ⟨c, cs, hcons, hspace, hc⟩ := (each d List.mem_cons_self).first
    obtain ⟨cs', hcons'⟩ := exists_intercalate_cons hcons (items.map chars)
    rw [List.map_cons, hcons'] at hitems ⊢
    rw [List.cons_append, List.append_assoc, List.singleton_append]
    exact (parseValue_items hspace hc fuel depth _).trans (congrArg (Option.map _) hitems)

theorem reads_record {depth : Nat} {fields : List (String × Document Float)}
    (each : ∀ e ∈ fields, Writable depth e.2) (reads : ∀ e ∈ fields, Reads depth e.2) :
    Reads (depth + 1) (.record fields) := by
  refine (Writable.record each).reads_of_succ fun fuel rest enough ends => ?_
  rw [chars_record] at enough ⊢
  rw [Store.reread_record]
  cases fields with
  | nil => rfl
  | cons e fields =>
    simp only [List.length_cons, List.length_append, List.length_nil] at enough
    have hfields := parseFields_of_reads (List.cons_ne_nil e fields) reads fuel [] rest (by omega)
    obtain ⟨cs, hcons⟩ : ∃ cs, fieldChars e = '"' :: cs := by
      rw [fieldChars, toList_quote]
      exact ⟨_, rfl⟩
    obtain ⟨cs', hcons'⟩ := exists_intercalate_cons hcons (fields.map fieldChars)
    rw [List.map_cons, hcons'] at hfields ⊢
    rw [List.cons_append, List.append_assoc, List.singleton_append]
    exact (parseValue_fields rfl (by decide) fuel depth _).trans
      (congrArg (Option.map _) hfields)

/-- **A document that can be written is read**, with its numbers read again. -/
theorem Writable.reads {depth : Nat} {d : Document Float} (h : Writable depth d) :
    Reads depth d := by
  induction h with
  | null => exact Writable.null.reads_of_succ fun fuel rest enough ends => rfl
  | @bool _ b =>
    refine Writable.bool.reads_of_succ fun fuel rest enough ends => ?_
    cases b <;> rfl
  | @int depth n low high =>
    refine (Writable.int low high).reads_of_succ fun fuel rest enough ends => ?_
    have hchars : chars (.int n) = (Text.Numeral.ofInt n).text.toList := by
      rw [Text.Numeral.text_ofInt]
      rfl
    have hnumber := parseNumber_int low high ends
    rw [← Text.Numeral.text_ofInt] at hnumber
    rw [hchars]
    exact reads_number (Text.Numeral.proper_ofInt n) hnumber fuel depth
  | @real depth x readable =>
    refine (Writable.real readable).reads_of_succ fun fuel rest enough ends => ?_
    have hreread : Store.reread (.real x : Document Float) = .real (Quantity.reread x) :=
      if_pos readable.2
    have hnumber := parseNumber_real readable.2 ends
    rw [hreread]
    exact reads_number (Text.Numeral.proper_ofFloat x).1 hnumber fuel depth
  | text => exact reads_text _ _
  | list each ih => exact reads_list each ih
  | record each ih => exact reads_record each ih

/-- **A written document is read back**, with its numbers read again. -/
theorem parse_compact {d : Document Float} (h : Writable 127 d) :
    parse (compact Text.Real.text d) = some (Store.reread d) := by
  have hvalue := h.reads (2 * (chars d).length + 2) [] (Nat.le_add_right _ 2) nofun
  rw [List.append_nil] at hvalue
  unfold parse
  dsimp only
  rw [show (compact Text.Real.text d).toList = chars d from rfl, hvalue]
  rfl

end Json
end WorkspaceFleet
