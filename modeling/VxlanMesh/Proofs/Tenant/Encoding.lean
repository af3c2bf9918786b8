/-
  VxlanMesh.Proofs.Tenant.Encoding
  ────────────────────────────────
  **THE REGISTRY SURVIVES ITS OWN TEXT.**

  Records are written as an indented object and read by the decoder of the
  registry.  Every record holds only whole numbers of 32 bits and texts,
  so `ofJsonText?_pretty` gives its document back; what is left is that
  the decoder undoes `toJson`:

      decodeText?_pretty     any records, any ids, any pods
-/
import VxlanMesh.Proofs.Json.ReadBack
import VxlanMesh.Proofs.KeyedTable
import VxlanMesh.Tenant.Record

namespace VxlanMesh

/-! ## §1. Records. -/

namespace TenantRecord

/-- A record holds no number that the reader could miss. -/
theorem isExact_toJson (record : TenantRecord) : record.toJson.isExact = true := by
  have hvni : (Json.Number.integer record.vni.toNat).isExact = true := by
    have hlt : record.vni.toNat < 4294967296 := record.vni.toNat_lt
    have hmax : Json.Reader.largestWord = 18446744073709551615 := by decide
    simp only [Json.Number.isExact, decide_eq_true_eq, hmax]
    omega
  have hpods : ∀ texts : List String,
      Json.allNumbersOf Json.Number.isExact (texts.map .string) = true :=
    fun texts => Json.allNumbersOf_iff.2 (List.forall_mem_map.2 fun _ _ => rfl)
  simp only [toJson, Json.isExact, Json.allNumbers, Json.allNumbersIn, Json.ofNat, Json.ofTexts,
    hvni, hpods, Bool.and_self]

/-- **A record is read back from its document.** -/
theorem decode?_toJson (record : TenantRecord) (depth : Nat) :
    decode? (depth + 2) (.ofValue record.toJson) = some record := by
  have hvni : Document.natural? (Numeral.largestOfBits 32) (depth + 1)
      (.number (some (.integer record.vni.toNat))) = some record.vni.toNat := by
    have hlt : record.vni.toNat < 4294967296 := record.vni.toNat_lt
    have hmax : Numeral.largestOfBits 32 = 4294967295 := by decide
    rw [Document.natural?, hmax, if_pos (by omega)]
    rfl
  have hpods : Document.sequence? Document.string? (depth + 1)
      (.sequence ((KeySet.toList record.pods).map (fun s => .text (some s))))
        = some (KeySet.toList record.pods) := by
    rw [Document.sequence?, List.mapM_map]
    exact mapM_eq_self fun s _ => rfl
  simp only [toJson, Json.ofNat, Json.ofTexts, Document.ofValue, Document.ofMembers,
    Document.ofValues_map]
  show (do
    let vni ← Document.natural? (Numeral.largestOfBits 32) (depth + 1)
      (.number (some (.integer record.vni.toNat)))
    let vlan ← Document.string? (depth + 1) (.text (some record.vlanText))
    let pods ← Document.sequence? Document.string? (depth + 1)
      (.sequence ((KeySet.toList record.pods).map (fun s => .text (some s))))
    pure (⟨vni.toUInt32, vlan, KeySet.ofList pods⟩ : TenantRecord)) = some record
  rw [hvni, hpods]
  show some (⟨record.vni.toNat.toUInt32, record.vlanText, _⟩ : TenantRecord) = some record
  rw [KeySet.ofList_toList]
  simp

end TenantRecord

/-! ## §2. Whole registries. -/

namespace TenantRecords

/-- Neither do all records together. -/
theorem isExact_toJson (records : TenantRecords) : records.toJson.isExact = true := by
  rw [toJson, Json.isExact, Json.allNumbers]
  exact Json.allNumbersIn_iff.2 (List.forall_mem_map.2 fun e _ => e.2.isExact_toJson)

/-- The records are read back from their document, whatever their ids are. -/
theorem decode?_toJson (records : TenantRecords) (depth : Nat) :
    decode? (depth + 3) (.ofValue records.toJson) = some records := by
  have hdoc : Document.ofValue records.toJson
      = .mapping (records.entries.map fun e => (some e.1, .ofValue e.2.toJson)) := by
    rw [toJson, Document.ofValue]
    exact congrArg _ (Document.ofMembers_map TenantRecord.toJson records.entries)
  rw [hdoc]
  rw [decode?, Document.table?, List.mapM_map, mapM_eq_self]
  · show some (KeyedTable.ofList records.entries) = some records
    rw [KeyedTable.ofList_entries]
  · intro e _
    simp [TenantRecord.decode?_toJson]

/-- **Records are read back from the text in which they are kept.** -/
theorem decodeText?_pretty (records : TenantRecords) :
    Document.decodeText? decode? records.toJson.pretty = some records := by
  unfold Document.decodeText?
  rw [Document.ofJsonText?_pretty records.isExact_toJson]
  exact decode?_toJson records 124

end TenantRecords

end VxlanMesh
