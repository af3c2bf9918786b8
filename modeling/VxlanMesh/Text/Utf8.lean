/-
  VxlanMesh.Text.Utf8
  ────────────────────────────────
  **BYTES AS TEXT.**

  `decode?` reads well-formed UTF-8 and nothing else.  `decodeLossy` reads
  any bytes: each maximal part that cannot belong to a well-formed
  sequence becomes one replacement character, so that a truncated
  sequence of three bytes counts once and a stray byte counts once.
-/

namespace VxlanMesh.Text.Utf8

/-! ## §1. Lead and continuation bytes. -/

/-- The bytes that may follow a lead byte directly, and how many bytes follow in all. -/
structure Lead where
  payload : Nat
  low : Nat
  high : Nat
  following : Nat

/-- What a byte announces as the first of a sequence of two, three or four. -/
def lead? (byte : UInt8) : Option Lead :=
  let b := byte.toNat
  if 0xC2 ≤ b && b ≤ 0xDF then some ⟨b - 0xC0, 0x80, 0xBF, 1⟩
  else if b == 0xE0 then some ⟨0, 0xA0, 0xBF, 2⟩
  else if b == 0xED then some ⟨0x0D, 0x80, 0x9F, 2⟩
  else if 0xE1 ≤ b && b ≤ 0xEF then some ⟨b - 0xE0, 0x80, 0xBF, 2⟩
  else if b == 0xF0 then some ⟨0, 0x90, 0xBF, 3⟩
  else if 0xF1 ≤ b && b ≤ 0xF3 then some ⟨b - 0xF0, 0x80, 0xBF, 3⟩
  else if b == 0xF4 then some ⟨4, 0x80, 0x8F, 3⟩
  else none

/-! ## §2. One character after another. -/

/-- The replacement character. -/
def replacement : Char := '\uFFFD'

/-- Read the bytes that follow a lead byte: the character, or none where a byte is missing
or does not fit, and how many bytes that takes. -/
def sequence (payload low high : Nat) : Nat → List UInt8 → Option Char × Nat
  | 0, _ => (some (Char.ofNat payload), 0)
  | _ + 1, [] => (none, 0)
  | n + 1, byte :: bytes =>
      if low ≤ byte.toNat && byte.toNat ≤ high then
        let (c, used) := sequence (payload * 64 + (byte.toNat - 0x80)) 0x80 0xBF n bytes
        (c, used + 1)
      else (none, 0)

/-- The first character of some bytes (none where they are ill-formed), and how many bytes
after the first belong to it. -/
def first (byte : UInt8) (bytes : List UInt8) : Option Char × Nat :=
  if byte.toNat < 0x80 then (some (Char.ofNat byte.toNat), 0)
  else match lead? byte with
    | none => (none, 0)
    | some l => sequence l.payload l.low l.high l.following bytes

/-- The characters of some bytes, none for each ill-formed part; `skip` bytes at the front
belong to a character that has been read. -/
def characters : Nat → List UInt8 → List (Option Char)
  | _, [] => []
  | skip + 1, _ :: bytes => characters skip bytes
  | 0, byte :: bytes =>
      let (c, used) := first byte bytes
      c :: characters used bytes

/-! ## §3. Decoding and encoding. -/

/-- The text of well-formed bytes. -/
def decode? (bytes : ByteArray) : Option String := String.fromUTF8? bytes

/-- The bytes of a text. -/
def encode (s : String) : ByteArray := s.toUTF8

/-- The text of any bytes, with a replacement for each ill-formed part. -/
def decodeLossy (bytes : List UInt8) : String :=
  String.ofList ((characters 0 bytes).map (·.getD replacement))

/-- What is encoded is read back. -/
theorem decode?_encode (s : String) : decode? (encode s) = some s :=
  dif_pos (c := s.toByteArray.IsValidUTF8) s.isValidUTF8

end VxlanMesh.Text.Utf8
