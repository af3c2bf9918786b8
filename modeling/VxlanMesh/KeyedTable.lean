/-
  VxlanMesh.KeyedTable
  ────────────────────────────────
  **TABLES KEYED BY TEXT, IN THE ORDER OF THE KEYS.**

  A `KeyedTable α` holds at most one value for each key and lists its
  entries in strictly ascending order of the keys (code point by code
  point), so two tables with the same entries are equal.  The operations
  work on plain lists of entries first, which is also the form in which
  the members of a JSON object are kept.

      get?_insert / get?_erase    look-up after a change
      ext                         look-ups decide a table
-/

namespace VxlanMesh

/-! ## §1. Entries in order. -/

namespace Entries

variable {α : Type}

/-- The value of the first entry with that key. -/
def get? (key : String) : List (String × α) → Option α
  | [] => none
  | (k, v) :: rest => if k = key then some v else get? key rest

/-- Put an entry in its place, instead of one with the same key. -/
def insert (key : String) (value : α) : List (String × α) → List (String × α)
  | [] => [(key, value)]
  | (k, v) :: rest =>
      if key < k then (key, value) :: (k, v) :: rest
      else if key = k then (key, value) :: rest
      else (k, v) :: insert key value rest

/-- Drop the entries with that key. -/
def erase (key : String) (entries : List (String × α)) : List (String × α) :=
  entries.filter (·.1 ≠ key)

/-- Entries in strictly ascending order of the keys. -/
def Ascending (entries : List (String × α)) : Prop := entries.Pairwise (·.1 < ·.1)

/-- After an insertion there is the new entry, and besides it only those from before. -/
theorem mem_insert {key : String} {value : α} {entries : List (String × α)}
    {entry : String × α} (h : entry ∈ insert key value entries) :
    entry = (key, value) ∨ entry ∈ entries := by
  induction entries with
  | nil => exact Or.inl (by simpa [insert] using h)
  | cons e rest ih =>
    obtain ⟨k, v⟩ := e
    simp only [insert] at h
    split at h
    · exact (List.mem_cons.1 h).imp id id
    · split at h
      · exact (List.mem_cons.1 h).imp id (List.mem_cons_of_mem _)
      · rcases List.mem_cons.1 h with h | h
        · exact Or.inr (h ▸ List.mem_cons_self)
        · exact (ih h).imp id (List.mem_cons_of_mem _)

/-- An insertion keeps the order of the keys. -/
theorem Ascending.insert {key : String} {value : α} {entries : List (String × α)}
    (h : Ascending entries) : Ascending (insert key value entries) := by
  induction entries with
  | nil => simp [Entries.insert, Ascending]
  | cons e rest ih =>
    obtain ⟨k, v⟩ := e
    obtain ⟨first, rest_ascending⟩ := List.pairwise_cons.1 h
    simp only [Entries.insert]
    split
    · rename_i less
      refine List.pairwise_cons.2 ⟨fun entry mem => ?_, h⟩
      rcases List.mem_cons.1 mem with rfl | mem
      · exact less
      · exact String.lt_trans less (first entry mem)
    · split
      · rename_i same
        subst same
        exact List.pairwise_cons.2 ⟨first, rest_ascending⟩
      · rename_i not_less not_same
        refine List.pairwise_cons.2 ⟨fun entry mem => ?_, ih rest_ascending⟩
        rcases mem_insert mem with rfl | mem
        · rcases Std.lt_trichotomy (α := String) k key with less | same | more
          · exact less
          · exact absurd same.symm not_same
          · exact absurd more not_less
        · exact first entry mem

theorem Ascending.erase {key : String} {entries : List (String × α)}
    (h : Ascending entries) : Ascending (erase key entries) :=
  List.Pairwise.filter _ h

/-- An insertion sets the value of its key and of no other. -/
theorem get?_insert (key other : String) (value : α) (entries : List (String × α)) :
    get? other (insert key value entries)
      = if other = key then some value else get? other entries := by
  induction entries with
  | nil => simp [insert, get?, eq_comm]
  | cons e rest ih =>
    obtain ⟨k, v⟩ := e
    simp only [insert]
    split
    · simp only [get?, eq_comm]
    · split
      · rename_i same
        subst same
        by_cases h : key = other <;> simp [get?, h, eq_comm]
      · rename_i not_same
        simp only [get?, ih]
        by_cases h : k = other
        · subst h
          simp [Ne.symm not_same]
        · simp [h]

/-- Erasing takes away its key and no other. -/
theorem get?_erase (key other : String) (entries : List (String × α)) :
    get? other (erase key entries) = if other = key then none else get? other entries := by
  induction entries with
  | nil => simp [erase, get?]
  | cons e rest ih =>
    obtain ⟨k, v⟩ := e
    unfold erase at ih ⊢
    by_cases h : k = key
    · subst h
      simp only [ne_eq, not_true_eq_false, decide_false, Bool.false_eq_true, not_false_eq_true,
        List.filter_cons_of_neg, ih, get?]
      by_cases h' : other = k
      · simp [h']
      · simp [h', Ne.symm h']
    · simp only [ne_eq, h, not_false_eq_true, decide_true, List.filter_cons_of_pos, get?, ih]
      by_cases h' : k = other
      · subst h'; simp [h]
      · simp [h']

theorem get?_eq_none_of_lt {key : String} {entries : List (String × α)}
    (h : ∀ entry ∈ entries, key < entry.1) : get? key entries = none := by
  induction entries with
  | nil => rfl
  | cons e rest ih =>
    have less := h e List.mem_cons_self
    have different : e.1 ≠ key := fun same => String.lt_irrefl key (same ▸ less)
    simp only [get?, different, if_false]
    exact ih fun entry mem => h entry (List.mem_cons_of_mem _ mem)

/-- Two ascending lists of entries with the same look-ups are equal. -/
theorem Ascending.ext {a b : List (String × α)} (ha : Ascending a) (hb : Ascending b)
    (h : ∀ key, get? key a = get? key b) : a = b := by
  induction a generalizing b with
  | nil =>
    cases b with
    | nil => rfl
    | cons e rest => simpa [get?] using h e.1
  | cons e rest ih =>
    obtain ⟨k, v⟩ := e
    cases b with
    | nil => simpa [get?] using h k
    | cons e' rest' =>
      obtain ⟨k', v'⟩ := e'
      obtain ⟨first, rest_ascending⟩ := List.pairwise_cons.1 ha
      obtain ⟨first', rest_ascending'⟩ := List.pairwise_cons.1 hb
      have below : ∀ {x y : String} {w : α} {tail : List (String × α)}, x < y →
          (∀ entry ∈ tail, y < entry.1) → get? x ((y, w) :: tail) = none := by
        intro x y w tail less all
        refine get?_eq_none_of_lt fun entry mem => ?_
        rcases List.mem_cons.1 mem with rfl | mem
        · exact less
        · exact String.lt_trans less (all entry mem)
      have same : k = k' := by
        rcases Std.lt_trichotomy (α := String) k k' with less | same | more
        · have := h k
          rw [below less first'] at this
          simp [get?] at this
        · exact same
        · have := h k'
          rw [below more first] at this
          simp [get?] at this
      subst same
      have value : v = v' := by simpa [get?] using h k
      subst value
      congr 1
      refine ih rest_ascending rest_ascending' fun key => ?_
      by_cases hk : k = key
      · subst hk
        rw [get?_eq_none_of_lt first, get?_eq_none_of_lt first']
      · simpa [get?, hk] using h key

end Entries

/-! ## §2. Tables. -/

/-- At most one value for each key, in ascending order of the keys. -/
structure KeyedTable (α : Type) where
  entries : List (String × α)
  ascending : Entries.Ascending entries

namespace KeyedTable

variable {α : Type}

/-- The table without entries. -/
def empty : KeyedTable α := ⟨[], List.Pairwise.nil⟩

instance : Inhabited (KeyedTable α) := ⟨empty⟩

/-- The value of a key. -/
def get? (table : KeyedTable α) (key : String) : Option α := Entries.get? key table.entries

/-- Set the value of a key. -/
def insert (table : KeyedTable α) (key : String) (value : α) : KeyedTable α :=
  ⟨Entries.insert key value table.entries, table.ascending.insert⟩

/-- Forget a key. -/
def erase (table : KeyedTable α) (key : String) : KeyedTable α :=
  ⟨Entries.erase key table.entries, table.ascending.erase⟩

/-- The key has a value. -/
def contains (table : KeyedTable α) (key : String) : Bool := (table.get? key).isSome

/-- The number of keys. -/
def size (table : KeyedTable α) : Nat := table.entries.length

/-- The values in the order of their keys. -/
def values (table : KeyedTable α) : List α := table.entries.map (·.2)

/-- The table of some entries; of two with one key the last counts. -/
def ofList (entries : List (String × α)) : KeyedTable α :=
  entries.foldl (fun table (key, value) => table.insert key value) empty

instance [DecidableEq α] : DecidableEq (KeyedTable α) := fun a b =>
  decidable_of_iff (a.entries = b.entries) (by cases a; cases b; simp)

@[simp] theorem get?_empty (key : String) : (empty : KeyedTable α).get? key = none := rfl

theorem get?_insert (table : KeyedTable α) (key other : String) (value : α) :
    (table.insert key value).get? other = if other = key then some value else table.get? other :=
  Entries.get?_insert key other value table.entries

/-- Look-ups decide a table. -/
theorem ext {a b : KeyedTable α} (h : ∀ key, a.get? key = b.get? key) : a = b := by
  have := a.ascending.ext b.ascending h
  cases a; cases b; simpa using this

theorem get?_erase (table : KeyedTable α) (key other : String) :
    (table.erase key).get? other = if other = key then none else table.get? other :=
  Entries.get?_erase key other table.entries

end KeyedTable

/-! ## §3. Sets of keys. -/

/-- A set of texts, in ascending order. -/
abbrev KeySet : Type := KeyedTable Unit

namespace KeySet

/-- The texts of a set, ascending. -/
def toList (keys : KeySet) : List String := keys.entries.map (·.1)

/-- The set of some texts. -/
def ofList (texts : List String) : KeySet :=
  texts.foldl (fun keys text => keys.insert text ()) KeyedTable.empty

end KeySet

end VxlanMesh
