/-
  VxlanMesh.Proofs.Json.Canonical
  ────────────────────────────────
  **A VALUE THAT WAS READ IS READ AGAIN.**

  A document can hold the members of an object in any order, and some of
  them twice.  A value that was read holds each once and in order, and the
  document that says it is one of those that are read as it, within the
  same depth:

      value?_ofValue          the document of a value that was read
      allNumbers_value?       the numbers of a value, of a part of a
      allNumbers_fields?      record and of a whole text are those that
      allNumbers_ofJsonText?  the reader found
      isExact_of_isWhole      without a double among them they are exact

  The reader finds whole numbers within 64 bits only, so what was read and
  has no doubles in it is written exactly.
-/
import Mathlib.Data.List.Forall2
import VxlanMesh.Proofs.Json.ReadBack
import VxlanMesh.Proofs.KeyedTable

namespace VxlanMesh

/-! ## §1. Steps and members in their order. -/

/-- Where a step reads all, it reads each. -/
theorem forall₂_of_mapM {α β : Type} {f : α → Option β} {xs : List α} {ys : List β}
    (h : xs.mapM f = some ys) : List.Forall₂ (fun x y => f x = some y) xs ys := by
  induction xs generalizing ys with
  | nil =>
      obtain rfl := Option.some.inj h
      exact .nil
  | cons x xs ih =>
      rw [List.mapM_cons] at h
      obtain ⟨y, hy, hrest⟩ := Option.bind_eq_some_iff.1 h
      obtain ⟨more, hmore, hall⟩ := Option.bind_eq_some_iff.1 hrest
      obtain rfl := Option.some.inj hall
      exact .cons hy (ih hmore)

theorem exists_of_mem_mapM {α β : Type} {f : α → Option β} {xs : List α} {ys : List β}
    (h : xs.mapM f = some ys) {y : β} (hy : y ∈ ys) : ∃ x ∈ xs, f x = some y := by
  have hall := forall₂_of_mapM h
  clear h
  induction hall with
  | nil => exact nomatch hy
  | cons hhead _ ih =>
      rcases List.mem_cons.1 hy with rfl | hy
      · exact ⟨_, List.mem_cons_self, hhead⟩
      · obtain ⟨x, hx, hread⟩ := ih hy
        exact ⟨x, List.mem_cons_of_mem _ hx, hread⟩

/-- Ascending entries, put in their places one after the other, are what they were. -/
theorem Entries.Ascending.foldl_insert {α : Type} {entries : List (String × α)}
    (h : Entries.Ascending entries) :
    entries.foldl (fun found e => Entries.insert e.1 e.2 found) [] = entries := by
  have hfold : ∀ (more : List (String × α)) (table : KeyedTable α),
      (more.foldl (fun table e => table.insert e.1 e.2) table).entries
        = more.foldl (fun found e => Entries.insert e.1 e.2 found) table.entries := by
    intro more
    induction more with
    | nil => intro table; rfl
    | cons e more ih => intro table; exact ih (table.insert e.1 e.2)
  exact (hfold entries KeyedTable.empty).symm.trans
    (congrArg KeyedTable.entries (KeyedTable.ofList_entries ⟨entries, h⟩))

namespace Document

/-- The document that says the value is read as the value. -/
def ReadAgain (depth : Nat) (v : Json) : Prop := value? depth (ofValue v) = some v

/-- Members that are read again are put in their places. -/
theorem members?_ofMembers {depth : Nat} {members : List (String × Json)}
    (h : ∀ e ∈ members, ReadAgain depth e.2) : ∀ found,
      members? depth (ofMembers members) found
        = some (members.foldl (fun found e => Entries.insert e.1 e.2 found) found) := by
  induction members with
  | nil => intro found; rfl
  | cons e rest ih =>
      intro found
      obtain ⟨hitem, hrest⟩ := List.forall_mem_cons.1 h
      have hitem : value? depth (ofValue e.2) = some e.2 := hitem
      simp only [ofMembers, members?, hitem]
      exact ih hrest _

mutual

/-- **What a document says, the document of the value says**, within the same depth. -/
theorem value?_ofValue : ∀ {depth : Nat} (doc : Document) {v : Json},
    value? depth doc = some v → ReadAgain depth v
  | depth, .null, v, h => by
      obtain rfl := Option.some.inj h
      rfl
  | depth, .bool b, v, h => by
      obtain rfl := Option.some.inj h
      rfl
  | depth, .number n, v, h => by
      obtain ⟨n, rfl, rfl⟩ := Option.map_eq_some_iff.1 h
      rfl
  | depth, .text s, v, h => by
      obtain ⟨s, rfl, rfl⟩ := Option.map_eq_some_iff.1 h
      rfl
  | 0, .sequence items, v, h => nomatch h
  | depth + 1, .sequence items, v, h => by
      obtain ⟨vs, hvs, rfl⟩ := Option.map_eq_some_iff.1 h
      rw [ReadAgain, ofValue, value?, values?_ofValues items hvs]
      rfl
  | 0, .mapping members, v, h => nomatch h
  | depth + 1, .mapping members, v, h => by
      obtain ⟨found, hfound, rfl⟩ := Option.map_eq_some_iff.1 h
      obtain ⟨hascending, hagain⟩ := members?_readAgain members hfound List.Pairwise.nil nofun
      rw [ReadAgain, ofValue, value?, members?_ofMembers hagain, hascending.foldl_insert]
      rfl

theorem values?_ofValues : ∀ {depth : Nat} (items : List Document) {vs : List Json},
    values? depth items = some vs → values? depth (ofValues vs) = some vs
  | depth, [], vs, h => by
      obtain rfl := Option.some.inj h
      rfl
  | depth, item :: rest, vs, h => by
      rw [values?] at h
      split at h
      · rename_i v more hv hmore
        obtain rfl := Option.some.inj h
        have hagain : value? depth (ofValue v) = some v := value?_ofValue item hv
        rw [ofValues, values?, hagain, values?_ofValues rest hmore]
      · exact nomatch h

/-- Members stay in order and read again while more of them are read. -/
theorem members?_readAgain : ∀ {depth : Nat} (members : List (Option String × Document))
    {found all : List (String × Json)}, members? depth members found = some all →
      Entries.Ascending found → (∀ e ∈ found, ReadAgain depth e.2) →
        Entries.Ascending all ∧ ∀ e ∈ all, ReadAgain depth e.2
  | depth, [], found, all, h, hascending, hagain => by
      obtain rfl := Option.some.inj h
      exact ⟨hascending, hagain⟩
  | depth, (key, item) :: rest, found, all, h, hascending, hagain => by
      simp only [members?] at h
      split at h
      · rename_i k v hv
        refine members?_readAgain rest h hascending.insert fun e he => ?_
        rcases Entries.mem_insert he with rfl | he
        · exact value?_ofValue item hv
        · exact hagain e he
      · exact nomatch h

end

end Document

/-! ## §2. The numbers of a value. -/

namespace Json

/-- The number is a double. -/
def Number.isDouble : Number → Bool
  | .integer _ => false
  | .double _ => true

/-- The value has no doubles in it. -/
def isWhole (v : Json) : Bool := v.allNumbers (!·.isDouble)

/-- The number is one that the reader finds. -/
def Number.isFound (n : Number) : Bool := n.isExact || n.isDouble

/-- What the reader finds is exact unless it is a double. -/
theorem Number.isExact_of_isFound {n : Number} (hfound : n.isFound = true)
    (hwhole : (!n.isDouble) = true) : n.isExact = true := by
  rw [isFound, Bool.or_eq_true] at hfound
  exact hfound.resolve_right fun hdouble => by simp [hdouble] at hwhole

mutual

/-- What holds for numbers that are both one thing and another, holds for those of a value. -/
theorem allNumbers_of_and {p q r : Number → Bool}
    (h : ∀ n, p n = true → q n = true → r n = true) : ∀ v : Json,
      v.allNumbers p = true → v.allNumbers q = true → v.allNumbers r = true
  | .null, _, _ => rfl
  | .bool _, _, _ => rfl
  | .string _, _, _ => rfl
  | .number n, hp, hq => h n hp hq
  | .array items, hp, hq => allNumbersOf_of_and h items hp hq
  | .object members, hp, hq => allNumbersIn_of_and h members hp hq

theorem allNumbersOf_of_and {p q r : Number → Bool}
    (h : ∀ n, p n = true → q n = true → r n = true) : ∀ items : List Json,
      allNumbersOf p items = true → allNumbersOf q items = true → allNumbersOf r items = true
  | [], _, _ => rfl
  | item :: rest, hp, hq => by
      simp only [allNumbersOf, Bool.and_eq_true] at hp hq ⊢
      exact ⟨allNumbers_of_and h item hp.1 hq.1, allNumbersOf_of_and h rest hp.2 hq.2⟩

theorem allNumbersIn_of_and {p q r : Number → Bool}
    (h : ∀ n, p n = true → q n = true → r n = true) : ∀ members : List (String × Json),
      allNumbersIn p members = true → allNumbersIn q members = true →
        allNumbersIn r members = true
  | [], _, _ => rfl
  | (key, item) :: rest, hp, hq => by
      simp only [allNumbersIn, Bool.and_eq_true] at hp hq ⊢
      exact ⟨allNumbers_of_and h item hp.1 hq.1, allNumbersIn_of_and h rest hp.2 hq.2⟩

end

/-- **A value without doubles is exact**, if the reader found its numbers. -/
theorem isExact_of_isWhole {v : Json} (hfound : v.allNumbers Number.isFound = true)
    (hwhole : v.isWhole = true) : v.isExact = true :=
  allNumbers_of_and (fun _ => Number.isExact_of_isFound) v hfound hwhole

end Json

namespace Document

variable {p : Json.Number → Bool}

mutual

/-- What holds for every number of the document. -/
def allNumbers (p : Json.Number → Bool) : Document → Bool
  | .number (some n) => p n
  | .sequence items => allNumbersOf p items
  | .mapping members => allNumbersIn p members
  | _ => true

def allNumbersOf (p : Json.Number → Bool) : List Document → Bool
  | [] => true
  | item :: rest => item.allNumbers p && allNumbersOf p rest

def allNumbersIn (p : Json.Number → Bool) : List (Option String × Document) → Bool
  | [] => true
  | (_, item) :: rest => item.allNumbers p && allNumbersIn p rest

end

mutual

/-- The numbers of a value are numbers of the document that says it. -/
theorem allNumbers_value? : ∀ {depth : Nat} (doc : Document) {v : Json},
    value? depth doc = some v → doc.allNumbers p = true → v.allNumbers p = true
  | depth, .null, v, h, _ => by
      obtain rfl := Option.some.inj h
      rfl
  | depth, .bool b, v, h, _ => by
      obtain rfl := Option.some.inj h
      rfl
  | depth, .number n, v, h, hp => by
      obtain ⟨n, rfl, rfl⟩ := Option.map_eq_some_iff.1 h
      exact hp
  | depth, .text s, v, h, _ => by
      obtain ⟨s, rfl, rfl⟩ := Option.map_eq_some_iff.1 h
      rfl
  | 0, .sequence items, v, h, _ => nomatch h
  | depth + 1, .sequence items, v, h, hp => by
      obtain ⟨vs, hvs, rfl⟩ := Option.map_eq_some_iff.1 h
      exact allNumbersOf_values? items hvs hp
  | 0, .mapping members, v, h, _ => nomatch h
  | depth + 1, .mapping members, v, h, hp => by
      obtain ⟨found, hfound, rfl⟩ := Option.map_eq_some_iff.1 h
      exact Json.allNumbersIn_iff.2 (allNumbersIn_members? members hfound hp nofun)

theorem allNumbersOf_values? : ∀ {depth : Nat} (items : List Document) {vs : List Json},
    values? depth items = some vs → allNumbersOf p items = true →
      Json.allNumbersOf p vs = true
  | depth, [], vs, h, _ => by
      obtain rfl := Option.some.inj h
      rfl
  | depth, item :: rest, vs, h, hp => by
      rw [allNumbersOf, Bool.and_eq_true] at hp
      rw [values?] at h
      split at h
      · rename_i v more hv hmore
        obtain rfl := Option.some.inj h
        rw [Json.allNumbersOf, allNumbers_value? item hv hp.1, allNumbersOf_values? rest hmore hp.2]
        rfl
      · exact nomatch h

theorem allNumbersIn_members? : ∀ {depth : Nat} (members : List (Option String × Document))
    {found all : List (String × Json)}, members? depth members found = some all →
      allNumbersIn p members = true → (∀ e ∈ found, e.2.allNumbers p = true) →
        ∀ e ∈ all, e.2.allNumbers p = true
  | depth, [], found, all, h, _, hfound => by
      obtain rfl := Option.some.inj h
      exact hfound
  | depth, (key, item) :: rest, found, all, h, hp, hfound => by
      rw [allNumbersIn, Bool.and_eq_true] at hp
      simp only [members?] at h
      split at h
      · rename_i k v hv
        refine allNumbersIn_members? rest h hp.2 fun e he => ?_
        rcases Entries.mem_insert he with rfl | he
        · exact allNumbers_value? item hv hp.1
        · exact hfound e he
      · exact nomatch h

end

/-- The numbers of items are those of each item. -/
theorem allNumbersOf_iff {items : List Document} :
    allNumbersOf p items = true ↔ ∀ item ∈ items, item.allNumbers p = true := by
  induction items with
  | nil => exact iff_of_true rfl nofun
  | cons item rest ih => rw [allNumbersOf, Bool.and_eq_true, ih, List.forall_mem_cons]

/-- The numbers of members are those of each member. -/
theorem allNumbersIn_iff {members : List (Option String × Document)} :
    allNumbersIn p members = true ↔ ∀ e ∈ members, e.2.allNumbers p = true := by
  induction members with
  | nil => exact iff_of_true rfl nofun
  | cons e rest ih => rw [allNumbersIn, Bool.and_eq_true, ih, List.forall_mem_cons]

/-- What holds for all numbers of the members holds for those with one name. -/
theorem allNumbers_named {name : String} {members : List (Option String × Document)}
    (h : allNumbersIn p members = true) : ∀ doc ∈ named name members, doc.allNumbers p = true := by
  intro doc hdoc
  obtain ⟨⟨key, item⟩, he, hsome⟩ := List.mem_filterMap.1 hdoc
  dsimp only at hsome
  split at hsome
  · obtain rfl := Option.some.inj hsome
    exact allNumbersIn_iff.1 h _ he
  · exact nomatch hsome

/-- It holds for those of a field that is found. -/
theorem allNumbers_field? {members : List (Option String × Document)} {name : String}
    {field : Option Document} (h : allNumbersIn p members = true)
    (hfield : field? members name = some field) : ∀ doc ∈ field, doc.allNumbers p = true := by
  have hnamed : ∀ doc ∈ named name members, doc.allNumbers p = true := allNumbers_named h
  rw [field?] at hfield
  split at hfield
  · obtain rfl := Option.some.inj hfield
    exact nofun
  · rename_i doc heq
    obtain rfl := Option.some.inj hfield
    rintro _ ⟨⟩
    exact hnamed doc (by rw [heq]; exact List.mem_cons_self)
  · exact nomatch hfield

/-- The numbers of the fields of a record are numbers of its document. -/
theorem allNumbers_fields? {names : List String} {surplus : Bool} {doc : Document}
    {fields : List (Option Document)} (h : doc.allNumbers p = true)
    (hfields : fields? names surplus doc = some fields) :
    ∀ field ∈ fields, ∀ part ∈ field, part.allNumbers p = true := by
  intro field hfield
  cases doc with
  | mapping members =>
      rw [fields?] at hfields
      split at hfields
      · obtain ⟨name, -, hname⟩ := exists_of_mem_mapM hfields hfield
        exact allNumbers_field? h hname
      · exact nomatch hfields
  | sequence items =>
      rw [fields?] at hfields
      split at hfields
      · obtain rfl := Option.some.inj hfields
        rcases List.mem_append.1 hfield with hitem | hnone
        · obtain ⟨item, htaken, rfl⟩ := List.mem_map.1 hitem
          rintro _ ⟨⟩
          exact allNumbersOf_iff.1 h item (List.mem_of_mem_take htaken)
        · rw [List.eq_of_mem_replicate hnone]
          exact nofun
      · exact nomatch hfields
  | null | bool _ | number _ | text _ => exact nomatch hfields

end Document

/-! ## §3. The numbers that the reader finds. -/

namespace Json.Reader

/-- Whole numbers are found within 64 bits only. -/
theorem isFound_number? {literal : Literal} {n : Number} (h : number? literal = some n) :
    n.isFound = true := by
  have hdouble : ∀ {x : Option Numeral.Binary64}, x.map .double = some n → n.isFound = true := by
    intro x hx
    obtain ⟨x, -, rfl⟩ := Option.map_eq_some_iff.1 hx
    rfl
  have hexact : n.isExact = true → n.isFound = true := fun hn => by rw [Number.isFound, hn]; rfl
  rw [number?] at h
  split at h
  · split at h
    · rename_i hsmall
      rw [Bool.and_eq_true, decide_eq_true_eq] at hsmall
      obtain rfl := Option.some.inj h
      refine hexact (decide_eq_true ⟨?_, Int.ofNat_le.2 hsmall.2⟩)
      omega
    · split at h
      · rename_i hsmall
        simp only [Bool.and_eq_true, decide_eq_true_eq] at hsmall
        obtain rfl := Option.some.inj h
        refine hexact (decide_eq_true ⟨?_, ?_⟩) <;> omega
      · exact hdouble h
  · exact hdouble h

mutual

/-- **The numbers of a document that was read are such as the reader finds.** -/
theorem allNumbers_document? : ∀ (fuel : Nat) {cs rest : List Char} {doc : Document},
    document? fuel cs = some (doc, rest) → doc.allNumbers Number.isFound = true
  | 0, _, _, _, h => nomatch h
  | fuel + 1, cs, rest, doc, h => by
      simp only [document?] at h
      split at h
      -- A bracket opens items, a brace opens members.
      · split at h
        · obtain ⟨rfl, -⟩ := Prod.mk.inj (Option.some.inj h)
          rfl
        · obtain ⟨⟨items, more⟩, hitems, heq⟩ := Option.map_eq_some_iff.1 h
          obtain ⟨rfl, -⟩ := Prod.mk.inj heq
          exact allNumbersOf_items? fuel hitems
      · split at h
        · obtain ⟨rfl, -⟩ := Prod.mk.inj (Option.some.inj h)
          rfl
        · obtain ⟨⟨members, more⟩, hmembers, heq⟩ := Option.map_eq_some_iff.1 h
          obtain ⟨rfl, -⟩ := Prod.mk.inj heq
          exact allNumbersIn_members? fuel hmembers
      -- Texts and words have no numbers.
      iterate 4
        · obtain ⟨_, -, heq⟩ := Option.map_eq_some_iff.1 h
          obtain ⟨rfl, -⟩ := Prod.mk.inj heq
          rfl
      · obtain ⟨⟨literal, more⟩, -, heq⟩ := Option.map_eq_some_iff.1 h
        obtain ⟨rfl, -⟩ := Prod.mk.inj heq
        cases hnumber : number? literal with
        | none => rfl
        | some n => exact isFound_number? hnumber

theorem allNumbersOf_items? : ∀ (fuel : Nat) {cs rest : List Char} {items : List Document},
    items? fuel cs = some (items, rest) → Document.allNumbersOf Number.isFound items = true
  | 0, _, _, _, h => nomatch h
  | fuel + 1, cs, rest, items, h => by
      simp only [items?] at h
      split at h
      · exact nomatch h
      · rename_i item more hitem
        have hfirst := allNumbers_document? fuel hitem
        split at h
        · obtain ⟨⟨others, _⟩, hothers, heq⟩ := Option.map_eq_some_iff.1 h
          obtain ⟨rfl, -⟩ := Prod.mk.inj heq
          rw [Document.allNumbersOf, hfirst, allNumbersOf_items? fuel hothers]
          rfl
        · obtain ⟨rfl, -⟩ := Prod.mk.inj (Option.some.inj h)
          rw [Document.allNumbersOf, hfirst]
          rfl
        · exact nomatch h

theorem allNumbersIn_members? : ∀ (fuel : Nat) {cs rest : List Char}
    {members : List (Option String × Document)}, members? fuel cs = some (members, rest) →
      Document.allNumbersIn Number.isFound members = true
  | 0, _, _, _, h => nomatch h
  | fuel + 1, cs, rest, members, h => by
      simp only [members?] at h
      split at h
      · split at h
        · exact nomatch h
        · split at h
          · split at h
            · exact nomatch h
            · rename_i item more hitem
              have hfirst := allNumbers_document? fuel hitem
              split at h
              · obtain ⟨⟨others, _⟩, hothers, heq⟩ := Option.map_eq_some_iff.1 h
                obtain ⟨rfl, -⟩ := Prod.mk.inj heq
                rw [Document.allNumbersIn, hfirst, allNumbersIn_members? fuel hothers]
                rfl
              · obtain ⟨rfl, -⟩ := Prod.mk.inj (Option.some.inj h)
                rw [Document.allNumbersIn, hfirst]
                rfl
              · exact nomatch h
          · exact nomatch h
      · exact nomatch h

end

end Json.Reader

/-- The numbers of a text are such as the reader finds. -/
theorem Document.allNumbers_ofJsonText? {s : String} {doc : Document}
    (h : ofJsonText? s = some doc) : doc.allNumbers Json.Number.isFound = true := by
  rw [ofJsonText?, Json.Reader.read?] at h
  split at h
  · rename_i other rest hread
    split at h
    · obtain rfl := Option.some.inj h
      exact Json.Reader.allNumbers_document? _ hread
    · exact nomatch h
  · exact nomatch h

end VxlanMesh
