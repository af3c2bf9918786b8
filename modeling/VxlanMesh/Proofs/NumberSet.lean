/-
  VxlanMesh.Proofs.NumberSet
  ────────────────────────────────
  **A SPACE OF NUMBERS IS A FINITE SET.**

  Whatever a space is asked, it answers as a finite set of numbers would:
  one that hands out the least number outside it, and takes numbers in and
  out.  The bitmap cannot be told from the answers; it only ever grows, by
  whole blocks, and only for a number that does not fit.

      callSet           the calls on a set
      call_matches      one call, on both sides
      behaves_as_set    the main result
-/
import Mathlib.Data.Finset.Lattice.Lemmas
import Mathlib.Data.Fintype.EquivFin
import Mathlib.Order.Bounds.Basic
import VxlanMesh.Proofs.IdSpace

namespace VxlanMesh.IdSpace

/-! ## §1. How far the bitmap reaches. -/

/-- Where the block of a number ends. -/
def blockEnd (id : Nat) : Nat := (id / idBlock + 1) * idBlock

/-- A bitmap of whole blocks ends before the end of a block exactly if the number is too
large for it. -/
theorem lt_blockEnd_iff {size : Nat} (hblocks : idBlock ∣ size) (id : Nat) :
    size < blockEnd id ↔ size ≤ id := by
  obtain ⟨blocks, rfl⟩ := hblocks
  unfold blockEnd idBlock
  omega

theorem size_mark (used : Array Bool) (id : Nat) :
    (mark used id).size = max used.size (blockEnd id) := by
  rw [mark, Array.size_setIfInBounds, reach, Array.size_append, Array.size_replicate, blockEnd]
  omega

theorem dvd_size_mark {used : Array Bool} (hblocks : idBlock ∣ used.size) (id : Nat) :
    idBlock ∣ (mark used id).size := by
  rw [size_mark]
  rcases Nat.le_total used.size (blockEnd id) with hle | hle
  · rw [Nat.max_eq_right hle]
    exact Nat.dvd_mul_left idBlock _
  · rw [Nat.max_eq_left hle]
    exact hblocks

/-- **How large a bitmap is in which some numbers were marked**, said by its upper bounds. -/
theorem size_foldl_mark_le (ids : List Nat) (used : Array Bool) (bound : Nat) :
    (ids.foldl mark used).size ≤ bound ↔
      used.size ≤ bound ∧ ∀ id ∈ ids, blockEnd id ≤ bound := by
  induction ids generalizing used with
  | nil => simp
  | cons id rest ih =>
      rw [List.foldl_cons, ih, size_mark, Nat.max_le, List.forall_mem_cons, and_assoc]

theorem dvd_size_foldl_mark (ids : List Nat) {used : Array Bool}
    (hblocks : idBlock ∣ used.size) : idBlock ∣ (ids.foldl mark used).size := by
  induction ids generalizing used with
  | nil => exact hblocks
  | cons id rest ih => exact ih (dvd_size_mark hblocks id)

/-- **The bitmap never gets smaller, and grows exactly for a number beyond it.** -/
theorem size_lt_foldl_mark {used : Array Bool} (hblocks : idBlock ∣ used.size) (ids : List Nat) :
    used.size ≤ (ids.foldl mark used).size ∧
      (used.size < (ids.foldl mark used).size ↔ ∃ id ∈ ids, used.size ≤ id) := by
  refine ⟨((size_foldl_mark_le ids used _).1 (Nat.le_refl _)).1, ?_⟩
  rw [← Nat.not_le, size_foldl_mark_le, and_iff_right (Nat.le_refl _)]
  simp only [not_forall, Nat.not_le, lt_blockEnd_iff hblocks, exists_prop]

/-! ## §2. What is taken. -/

theorem lt_capacity_of_isAllocated {space : IdSpace} {id : Nat}
    (h : space.isAllocated id = true) : id < space.capacity := by
  by_contra hge
  rw [isAllocated, Array.getElem?_eq_none (Nat.not_lt.1 hge)] at h
  cases h

theorem mem_allocated {space : IdSpace} {id : Nat} :
    id ∈ space.allocated ↔ space.isAllocated id = true := by
  rw [allocated, List.mem_filter, List.mem_range]
  exact and_iff_right_of_imp lt_capacity_of_isAllocated

/-- The list of what is taken ascends. -/
theorem pairwise_allocated (space : IdSpace) : space.allocated.Pairwise (· < ·) :=
  List.Pairwise.filter _ List.pairwise_lt_range

/-- The first free number is the least one that is not taken. -/
theorem isLeast_firstFree (space : IdSpace) :
    IsLeast {id | space.isAllocated id = false} space.firstFree := by
  refine ⟨space.isAllocated_firstFree, fun id hfree => ?_⟩
  by_contra hlt
  have htaken := isAllocated_of_lt_firstFree (Nat.not_le.1 hlt)
  rw [hfree] at htaken
  cases htaken

/-! ## §3. Calls, on a space and on a set. -/

/-- What a space can be asked. -/
inductive Call where
  | allocate
  | release (id : Nat)
  | seed (ids : List Nat)

/-- What a call answers: a number or a failure, or nothing at all. -/
abbrev Reply : Type := Option (Except OverlayError Nat)

/-- A call on a space. -/
def call (space : IdSpace) : Call → Reply × IdSpace
  | .allocate => (some space.allocate.1, space.allocate.2)
  | .release id => (none, space.release id)
  | .seed ids => (none, space.seed ids)

/-- The least number outside a finite set. -/
def leastOutside (S : Finset Nat) : Nat := Nat.find (Infinite.exists_notMem_finset S)

/-- A call on a set: numbers go in and out, and what is handed out is the least number
outside, if that is below the limit. -/
def callSet (name : String) (limit : Option Nat) (S : Finset Nat) : Call → Reply × Finset Nat
  | .allocate =>
      match limit with
      | none => (some (.ok (leastOutside S)), insert (leastOutside S) S)
      | some limit =>
          if leastOutside S < limit then (some (.ok (leastOutside S)), insert (leastOutside S) S)
          else (some (.error (.idExhausted name limit)), S)
  | .release id => (none, S.erase id)
  | .seed ids => (none, S ∪ ids.toFinset)

/-- Calls one after the other: all answers, and what there is at the end. -/
def replay {α : Type} (answer : α → Call → Reply × α) : α → List Call → List Reply × α
  | a, [] => ([], a)
  | a, call :: rest =>
      let first := answer a call
      let later := replay answer first.2 rest
      (first.1 :: later.1, later.2)

/-- The numbers for which a call may need room. -/
def Call.marks : Call → Reply → List Nat
  | .allocate, some (.ok id) => [id]
  | .seed ids, _ => ids
  | _, _ => []

/-! ## §4. The space and the set. -/

/-- **The space stands for the set**: the same numbers are taken, and the bitmap consists
of whole blocks. -/
structure Matches (name : String) (limit : Option Nat) (space : IdSpace) (S : Finset Nat) :
    Prop where
  name_eq : space.name = name
  limit_eq : space.limit = limit
  mem : ∀ id, space.isAllocated id = true ↔ id ∈ S
  blocks : idBlock ∣ space.capacity

section
variable {name : String} {limit : Option Nat} {space : IdSpace} {S : Finset Nat}

/-- The first free number is the least one outside the set. -/
theorem Matches.firstFree_eq (h : Matches name limit space S) :
    space.firstFree = leastOutside S := by
  have hfree : ∀ id, space.isAllocated id = false ↔ id ∉ S := fun id => by
    rw [← h.mem, Bool.not_eq_true]
  obtain ⟨hout, hleast⟩ := space.isLeast_firstFree
  refine ((Nat.find_eq_iff _).2 ⟨(hfree _).1 hout, fun id hlt hnot => ?_⟩).symm
  exact Nat.not_le.2 hlt (hleast ((hfree id).2 hnot))

/-- A number is marked. -/
theorem Matches.mark (h : Matches name limit space S) (id : Nat) :
    Matches name limit { space with used := mark space.used id } (insert id S) where
  name_eq := h.name_eq
  limit_eq := h.limit_eq
  mem other := by
    show ((IdSpace.mark space.used id)[other]?).getD false = true ↔ _
    rw [getElem?_mark, Bool.or_eq_true, beq_iff_eq, Finset.mem_insert]
    exact or_congr_right (h.mem other)
  blocks := dvd_size_mark h.blocks id

theorem callSet_allocate (name : String) (limit : Option Nat) (S : Finset Nat) :
    callSet name limit S .allocate
      = if limit.all (leastOutside S < ·) then
          (some (.ok (leastOutside S)), insert (leastOutside S) S)
        else (some (.error (.idExhausted name (limit.getD 0))), S) := by
  cases limit with
  | none => rfl
  | some limit => simp [callSet]

/-- **One call**: the answers are the same, and what is left matches. -/
theorem call_matches (h : Matches name limit space S) (c : Call) :
    (space.call c).1 = (callSet name limit S c).1 ∧
      Matches name limit (space.call c).2 (callSet name limit S c).2 := by
  cases c with
  | allocate =>
      have hmark := h.mark (leastOutside S)
      have hfree := h.firstFree_eq
      have hbelow : space.isBelowLimit space.firstFree = limit.all (leastOutside S < ·) := by
        rw [isBelowLimit, h.limit_eq, hfree]
        cases limit <;> rfl
      rw [call, allocate, hbelow, hfree, callSet_allocate]
      split
      · exact ⟨rfl, hmark⟩
      · exact ⟨by rw [h.name_eq, h.limit_eq], h⟩
  | release id =>
      refine ⟨rfl, h.name_eq, h.limit_eq, fun other => ?_, ?_⟩
      · show (space.release id).isAllocated other = true ↔ other ∈ S.erase id
        rw [isAllocated_release, Bool.and_eq_true, bne_iff_ne, h.mem, Finset.mem_erase]
      · show idBlock ∣ (space.used.setIfInBounds id false).size
        rw [Array.size_setIfInBounds]
        exact h.blocks
  | seed ids =>
      refine ⟨rfl, h.name_eq, h.limit_eq, fun other => ?_, dvd_size_foldl_mark ids h.blocks⟩
      show (space.seed ids).isAllocated other = true ↔ other ∈ S ∪ ids.toFinset
      rw [isAllocated_seed, h.mem, Finset.mem_union, List.mem_toFinset, or_comm]

/-- **The bitmap over one call**: it never gets smaller, and grows exactly if a number that
is marked lies beyond it. -/
theorem call_capacity (h : idBlock ∣ space.capacity) (c : Call) :
    space.capacity ≤ (space.call c).2.capacity ∧
      (space.capacity < (space.call c).2.capacity ↔
        ∃ id ∈ c.marks (space.call c).1, space.capacity ≤ id) := by
  cases c with
  | allocate =>
      rw [call, allocate]
      split
      · exact size_lt_foldl_mark h [space.firstFree]
      · simp [Call.marks]
  | release id =>
      have hsame : (space.release id).capacity = space.capacity := Array.size_setIfInBounds
      simp [call, hsame, Call.marks]
  | seed ids => exact size_lt_foldl_mark h ids

/-- A call that fails leaves the space as it was. -/
theorem call_failed {c : Call} {e : OverlayError} (h : (space.call c).1 = some (.error e)) :
    (space.call c).2 = space := by
  cases c with
  | allocate =>
      have herror : space.allocate = (.error e, space.allocate.2) :=
        Prod.ext (Option.some.inj h) rfl
      exact (allocate_error herror).1
  | release id => cases h
  | seed ids => cases h

/-- **Any number of calls.**  Induction on the calls; the set goes along with the space. -/
theorem replay_matches (calls : List Call) : ∀ {space : IdSpace} {S : Finset Nat},
    Matches name limit space S →
    (replay call space calls).1 = (replay (callSet name limit) S calls).1 ∧
      Matches name limit (replay call space calls).2 (replay (callSet name limit) S calls).2 := by
  induction calls with
  | nil => intro space S h; exact ⟨rfl, h⟩
  | cons c rest ih =>
      intro space S h
      obtain ⟨hreply, hnext⟩ := call_matches h c
      obtain ⟨hreplies, hlast⟩ := ih hnext
      exact ⟨by rw [replay, replay, hreply, hreplies], hlast⟩

end

/-- At the start nothing is taken. -/
theorem matches_empty (name : String) (limit : Option Nat) :
    Matches name limit { name, limit } ∅ where
  name_eq := rfl
  limit_eq := rfl
  mem id := by simp [isAllocated]
  blocks := Nat.dvd_zero _

/-- **A space behaves as a finite set**, with a limit or without.  Any calls are answered as
the set answers them; what is taken is then the set, listed in ascending order and below the
capacity, which is a multiple of the block.  And whatever comes next, the capacity stays or
grows, the latter exactly if a number that was handed out or seeded lies beyond it; a call
that fails changes nothing. -/
theorem behaves_as_set (name : String) (limit : Option Nat) (calls : List Call) :
    let onSpace := replay call { name, limit } calls
    let onSet := replay (callSet name limit) ∅ calls
    let space := onSpace.2
    let S := onSet.2
    onSpace.1 = onSet.1 ∧
    (∀ id, space.isAllocated id = decide (id ∈ S)) ∧
    (space.allocated.Pairwise (· < ·) ∧ ∀ id, id ∈ space.allocated ↔ id ∈ S) ∧
    (idBlock ∣ space.capacity ∧ ∀ id ∈ S, id < space.capacity) ∧
    ∀ c, let reply := (space.call c).1
      let later := (space.call c).2
      space.capacity ≤ later.capacity ∧
      (space.capacity < later.capacity ↔ ∃ id ∈ c.marks reply, space.capacity ≤ id) ∧
      ∀ e, reply = some (.error e) → later = space := by
  intro onSpace onSet space S
  obtain ⟨hreplies, hend⟩ := replay_matches calls (matches_empty name limit)
  have h : Matches name limit space S := hend
  refine ⟨hreplies, fun id => ?_, ⟨pairwise_allocated _, fun id => ?_⟩,
    ⟨h.blocks, fun id hid => ?_⟩, fun c => ?_⟩
  · rw [Bool.eq_iff_iff, decide_eq_true_iff]
    exact h.mem id
  · rw [mem_allocated]
    exact h.mem id
  · exact lt_capacity_of_isAllocated ((h.mem id).2 hid)
  · obtain ⟨hle, hgrows⟩ := call_capacity h.blocks c
    exact ⟨hle, hgrows, fun e he => call_failed he⟩

/-- A limit inside a block, and a number beyond it that is seeded: the least free number is
found again below the limit, and then there is none. -/
example :
    (replay call { name := "vlan", limit := some 3 }
      [.seed [0, 120], .allocate, .allocate, .allocate, .release 1, .allocate]).1
    = [none, some (.ok 1), some (.ok 2), some (.error (.idExhausted "vlan" 3)), none,
        some (.ok 1)] := by
  decide +kernel

end VxlanMesh.IdSpace
