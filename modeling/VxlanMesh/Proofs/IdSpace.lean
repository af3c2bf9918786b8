/-
  VxlanMesh.Proofs.IdSpace
  ────────────────────────────────
  **WHICH NUMBERS ARE TAKEN, BEFORE AND AFTER.**

  A space is seen through `isAllocated`; the bitmap behind it grows by
  blocks, which no statement here can see.

      isAllocated_release, isAllocated_seed   what a change does to each number
      allocate_ok                             the least free number, below the limit
      allocate_error                          all numbers below the limit are taken
-/
import VxlanMesh.IdSpace

namespace VxlanMesh.IdSpace

/-! ## §1. Marks. -/

/-- The blocks that are added to reach a number have no marks. -/
theorem getElem?_reach (used : Array Bool) (id other : Nat) :
    ((reach used id)[other]?).getD false = (used[other]?).getD false := by
  rw [reach, Array.getElem?_append]
  split
  · rfl
  · rename_i h
    rw [Array.getElem?_eq_none (Nat.not_lt.1 h), Array.getElem?_replicate]
    split <;> rfl

/-- A bitmap that was made to reach a number has a place for it. -/
theorem lt_size_reach (used : Array Bool) (id : Nat) : id < (reach used id).size := by
  have hblock : id < (id / idBlock + 1) * idBlock := by
    have hdiv := Nat.div_add_mod id idBlock
    have hmod := Nat.mod_lt id (show 0 < idBlock by decide)
    have hmul : (id / idBlock + 1) * idBlock = idBlock * (id / idBlock) + idBlock := by
      rw [Nat.add_mul, Nat.one_mul, Nat.mul_comm]
    omega
  rw [reach, Array.size_append, Array.size_replicate]
  omega

/-- A mark is set for one number, and the others keep theirs. -/
theorem getElem?_mark (used : Array Bool) (id other : Nat) :
    ((mark used id)[other]?).getD false = (other == id || (used[other]?).getD false) := by
  rw [mark, Array.getElem?_setIfInBounds, ← getElem?_reach used id other]
  by_cases h : id = other
  · subst h
    rw [if_pos rfl, if_pos (lt_size_reach used id), beq_self_eq_true]
    rfl
  · rw [if_neg h, beq_eq_false_iff_ne.2 (Ne.symm h), Bool.false_or]

/-! ## §2. Changes. -/

/-- **A number that is given back** is free, and no other number changes. -/
theorem isAllocated_release (space : IdSpace) (id other : Nat) :
    (space.release id).isAllocated other = (other != id && space.isAllocated other) := by
  rw [isAllocated, isAllocated, release, Array.getElem?_setIfInBounds]
  by_cases h : id = other
  · subst h
    rw [if_pos rfl, bne_self_eq_false]
    split <;> rfl
  · rw [if_neg h, bne_iff_ne.2 (Ne.symm h), Bool.true_and]

/-- **Seeding** takes the given numbers, and the others stay as they are. -/
theorem isAllocated_seed (space : IdSpace) (ids : List Nat) (other : Nat) :
    (space.seed ids).isAllocated other = true ↔ other ∈ ids ∨ space.isAllocated other = true := by
  have hfold : ∀ (used : Array Bool),
      ((ids.foldl mark used)[other]?).getD false = true
        ↔ other ∈ ids ∨ (used[other]?).getD false = true := by
    induction ids with
    | nil => intro used; simp
    | cons id rest ih =>
        intro used
        rw [List.foldl_cons, ih, getElem?_mark, Bool.or_eq_true, beq_iff_eq, List.mem_cons]
        exact ⟨fun h => h.elim (fun h => Or.inl (Or.inr h))
            (fun h => h.elim (fun h => Or.inl (Or.inl h)) Or.inr),
          fun h => h.elim (fun h => h.elim (fun h => Or.inr (Or.inl h)) Or.inl)
            (fun h => Or.inr (Or.inr h))⟩
  exact hfold space.used

/-! ## §3. Handing out. -/

theorem isBelowLimit_congr {space other : IdSpace} (h : other.limit = space.limit) (id : Nat) :
    other.isBelowLimit id = space.isBelowLimit id := by
  rw [isBelowLimit, isBelowLimit, h]

/-- The first free number is free, also where it lies beyond the bitmap. -/
theorem isAllocated_firstFree (space : IdSpace) : space.isAllocated space.firstFree = false := by
  rw [isAllocated, firstFree]
  cases h : space.used.findIdx? fun taken => !taken with
  | none => simp
  | some id =>
      obtain ⟨hlt, hfree, -⟩ := Array.findIdx?_eq_some_iff_getElem.1 h
      rw [Option.getD_some, Array.getElem?_eq_getElem hlt, Option.getD_some]
      simpa using hfree

/-- All numbers below the first free one are taken. -/
theorem isAllocated_of_lt_firstFree {space : IdSpace} {id : Nat} (h : id < space.firstFree) :
    space.isAllocated id = true := by
  rw [firstFree] at h
  rw [isAllocated]
  cases hfind : space.used.findIdx? fun taken => !taken with
  -- No number of the bitmap is free: the first free one lies just beyond.
  | none =>
      rw [hfind, Option.getD_none] at h
      have htaken := Array.findIdx?_eq_none_iff.1 hfind space.used[id] (Array.getElem_mem h)
      rw [Array.getElem?_eq_getElem h, Option.getD_some]
      simpa using htaken
  | some first =>
      rw [hfind, Option.getD_some] at h
      obtain ⟨hlt, -, hbefore⟩ := Array.findIdx?_eq_some_iff_getElem.1 hfind
      have htaken := hbefore id h
      rw [Array.getElem?_eq_getElem (Nat.lt_trans h hlt), Option.getD_some]
      simpa using htaken

/-- **A number that is handed out** was free, is the least such, lies below the limit and
is the only change. -/
theorem allocate_ok {space later : IdSpace} {id : Nat} (h : space.allocate = (.ok id, later)) :
    id = space.firstFree ∧ space.isBelowLimit id = true ∧ later.limit = space.limit ∧
      ∀ other, later.isAllocated other = (other == id || space.isAllocated other) := by
  rw [allocate] at h
  split at h
  · rename_i hbelow
    cases h
    exact ⟨rfl, hbelow, rfl, fun other => getElem?_mark space.used _ other⟩
  · cases h

/-- What is handed out was free. -/
theorem isAllocated_of_allocate {space later : IdSpace} {id : Nat}
    (h : space.allocate = (.ok id, later)) : space.isAllocated id = false := by
  rw [(allocate_ok h).1]
  exact space.isAllocated_firstFree

/-- **A space that hands out nothing** is left alone, and its first free number does not lie below
the limit. -/
theorem allocate_error {space later : IdSpace} {e : OverlayError}
    (h : space.allocate = (.error e, later)) :
    later = space ∧ space.isBelowLimit space.firstFree = false := by
  rw [allocate] at h
  split at h
  · cases h
  · rename_i hbelow
    exact ⟨(Prod.mk.inj h).2.symm, Bool.eq_false_iff.2 hbelow⟩

/-- A number that is given back at once leaves no trace. -/
theorem isAllocated_release_of_allocate {space later : IdSpace} {id : Nat}
    (h : space.allocate = (.ok id, later)) (other : Nat) :
    (later.release id).isAllocated other = space.isAllocated other := by
  obtain ⟨hfirst, -, -, hlater⟩ := allocate_ok h
  rw [isAllocated_release, hlater]
  by_cases heq : other = id
  · rw [heq, hfirst, isAllocated_firstFree, bne_self_eq_false]
    rfl
  · rw [bne_iff_ne.2 heq, beq_eq_false_iff_ne.2 heq]
    rfl

end VxlanMesh.IdSpace
