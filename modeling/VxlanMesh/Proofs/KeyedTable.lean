/-
  VxlanMesh.Proofs.KeyedTable
  ────────────────────────────────
  **ENTRIES, LOOK-UPS, AND MANY KEYS FORGOTTEN AT ONCE.**

  The entries of a table are what its look-ups find, so a change that is
  made twice or undone is told by the look-ups after it.  Forgetting some
  keys one after the other leaves the entries with other keys, and the
  table is smaller by the number of keys that it had.  A set of texts is
  told by what it has.
-/
import VxlanMesh.KeyedTable

namespace VxlanMesh.KeyedTable

variable {α : Type}

/-- The entries of a table are what its look-ups find. -/
theorem mem_entries_iff {table : KeyedTable α} {key : String} {value : α} :
    (key, value) ∈ table.entries ↔ table.get? key = some value := by
  have hall : ∀ entries : List (String × α), Entries.Ascending entries →
      ((key, value) ∈ entries ↔ Entries.get? key entries = some value) := by
    intro entries
    induction entries with
    | nil => intro _; simp [Entries.get?]
    | cons e rest ih =>
        intro h
        obtain ⟨k, v⟩ := e
        obtain ⟨first, hrest⟩ := List.pairwise_cons.1 h
        rw [List.mem_cons, ih hrest]
        by_cases hk : k = key
        · subst hk
          rw [Entries.get?_eq_none_of_lt first]
          simp [Entries.get?, eq_comm]
        · simp [Entries.get?, hk, Ne.symm hk]
  exact hall table.entries table.ascending

theorem contains_iff {table : KeyedTable α} {key : String} :
    table.contains key = true ↔ ∃ value, table.get? key = some value :=
  Option.isSome_iff_exists

theorem get?_insert_self (table : KeyedTable α) (key : String) (value : α) :
    (table.insert key value).get? key = some value := by
  rw [get?_insert, if_pos rfl]

/-- Writing what is there changes nothing. -/
theorem insert_eq_self {table : KeyedTable α} {key : String} {value : α}
    (hget : table.get? key = some value) : table.insert key value = table := by
  apply ext
  intro other
  rw [get?_insert]
  split
  · rename_i hkey
    rw [hkey, hget]
  · rfl

/-- Of two values for one key the last one counts. -/
theorem insert_insert (table : KeyedTable α) (key : String) (first second : α) :
    (table.insert key first).insert key second = table.insert key second := by
  apply ext
  intro other
  rw [get?_insert, get?_insert, get?_insert]
  split <;> rfl

/-- A key that is forgotten takes its last value with it. -/
theorem erase_insert (table : KeyedTable α) (key : String) (value : α) :
    (table.insert key value).erase key = table.erase key := by
  apply ext
  intro other
  rw [get?_erase, get?_erase]
  split
  · rfl
  · rename_i hkey
    rw [get?_insert, if_neg hkey]

/-- Forgetting what is not there changes nothing. -/
theorem erase_eq_self {table : KeyedTable α} {key : String} (hnone : table.get? key = none) :
    table.erase key = table := by
  apply ext
  intro other
  rw [get?_erase]
  split
  · rename_i hkey
    rw [hkey, hnone]
  · rfl

/-- No key occurs twice. -/
theorem nodup_keys (table : KeyedTable α) : (table.entries.map Prod.fst).Nodup := by
  rw [List.Nodup, List.pairwise_map]
  refine List.Pairwise.imp (fun {a b} hless hsame => ?_) table.ascending
  rw [hsame] at hless
  exact String.lt_irrefl _ hless

/-- The key of an entry does not occur before it. -/
theorem key_ne_of_mem_before {table : KeyedTable α} {before rest : List (String × α)}
    {e earlier : String × α} (hsplit : table.entries = before ++ e :: rest)
    (h : earlier ∈ before) : earlier.1 ≠ e.1 := by
  have hascending := table.ascending
  rw [hsplit] at hascending
  have hless := (List.pairwise_append.1 hascending).2.2 earlier h e List.mem_cons_self
  exact fun hsame => String.lt_irrefl _ (hsame ▸ hless)

/-! Keys forgotten one after the other. -/

/-- Many keys forgotten leave the entries with other keys. -/
theorem entries_foldl_erase (keys : List String) (table : KeyedTable α) :
    (keys.foldl erase table).entries = table.entries.filter (·.1 ∉ keys) := by
  induction keys generalizing table with
  | nil => exact (List.filter_eq_self.2 fun _ _ => decide_eq_true List.not_mem_nil).symm
  | cons key rest ih =>
      rw [List.foldl_cons, ih]
      show (table.entries.filter (·.1 ≠ key)).filter (·.1 ∉ rest) = _
      rw [List.filter_filter]
      refine List.filter_congr fun entry _ => ?_
      simp only [List.mem_cons, not_or, Bool.decide_and, Bool.and_comm]

theorem get?_foldl_erase (keys : List String) (table : KeyedTable α) (other : String) :
    (keys.foldl erase table).get? other = if other ∈ keys then none else table.get? other := by
  induction keys generalizing table with
  | nil => rfl
  | cons key rest ih =>
      rw [List.foldl_cons, ih, get?_erase]
      by_cases hkey : other = key <;> simp [hkey]

/-- Each key that a table has and that is forgotten makes it smaller by one. -/
theorem size_foldl_erase (table : KeyedTable α) (p : String → Bool) :
    table.size = (((table.entries.map Prod.fst).filter p).foldl erase table).size
      + ((table.entries.map Prod.fst).filter p).length := by
  rw [size, size, entries_foldl_erase, ← List.countP_eq_length_filter,
    ← List.countP_eq_length_filter, List.countP_map,
    List.length_eq_countP_add_countP (p ∘ Prod.fst), Nat.add_comm]
  congr 1
  refine List.countP_congr fun entry hentry => ?_
  have hkey : entry.1 ∈ (table.entries.map Prod.fst).filter p ↔ p entry.1 = true := by
    rw [List.mem_filter]
    exact and_iff_right (List.mem_map_of_mem hentry)
  simp [hkey]

/-! Tables from their entries. -/

/-- Entries with ascending keys, put into a table one after the other. -/
theorem get?_foldl_insert (key : String) : ∀ (entries : List (String × α)) (table : KeyedTable α),
    Entries.Ascending entries →
      (entries.foldl (fun t (e : String × α) => t.insert e.1 e.2) table).get? key
        = (Entries.get? key entries).or (table.get? key) := by
  intro entries
  induction entries with
  | nil => intro table _; rfl
  | cons e rest ih =>
      intro table h
      obtain ⟨k, v⟩ := e
      obtain ⟨first, hrest⟩ := List.pairwise_cons.1 h
      rw [List.foldl_cons, ih _ hrest, get?_insert]
      by_cases hk : key = k
      · subst hk
        rw [Entries.get?_eq_none_of_lt first]
        simp [Entries.get?]
      · simp [Entries.get?, hk, Ne.symm hk]

/-- A table is the table of its entries. -/
theorem ofList_entries (table : KeyedTable α) : ofList table.entries = table := by
  apply ext
  intro key
  show (table.entries.foldl (fun t (e : String × α) => t.insert e.1 e.2) empty).get? key = _
  rw [get?_foldl_insert key _ _ table.ascending, get?_empty, Option.or_none]
  rfl

end VxlanMesh.KeyedTable

namespace VxlanMesh.KeySet

/-- A set of some texts has these and no others. -/
theorem get?_ofList (texts : List String) (text : String) :
    (ofList texts).get? text = if text ∈ texts then some () else none := by
  have hall : ∀ keys : KeySet, (texts.foldl (fun keys text => keys.insert text ()) keys).get? text
      = if text ∈ texts then some () else keys.get? text := by
    induction texts with
    | nil => intro keys; rfl
    | cons first rest ih =>
        intro keys
        rw [List.foldl_cons, ih, KeyedTable.get?_insert]
        by_cases hfirst : text = first <;> simp [hfirst]
  exact hall KeyedTable.empty

/-- A set is the set of its texts. -/
theorem ofList_toList (keys : KeySet) : ofList keys.toList = keys := by
  unfold ofList toList
  rw [List.foldl_map]
  exact KeyedTable.ofList_entries keys

/-- **Texts make the same set if and only if they are the same but for order and number.** -/
theorem ofList_eq_iff {texts texts' : List String} :
    ofList texts = ofList texts' ↔ ∀ text, text ∈ texts ↔ text ∈ texts' := by
  constructor
  · intro h text
    have hget := congrArg (KeyedTable.get? · text) h
    simp only [get?_ofList] at hget
    by_cases htext : text ∈ texts <;> by_cases htext' : text ∈ texts' <;> simp_all
  · intro h
    refine KeyedTable.ext fun text => ?_
    simp only [get?_ofList, h text]

end VxlanMesh.KeySet
