import Soldisco.Proof.SourcePump.Base58

/-
This file proves which bytes each field reader accepts.
-/

namespace Soldisco.SourcePump
open ByteReader

namespace Encoding

def u8 (value : UInt8) : List UInt8 := [value]

def u16 (value : UInt16) : List UInt8 := LittleEndian.bytes 2 value.toNat

def u32 (value : UInt32) : List UInt8 := LittleEndian.bytes 4 value.toNat

def u64 (value : UInt64) : List UInt8 := LittleEndian.bytes 8 value.toNat

def i64 (value : Int64) : List UInt8 := LittleEndian.bytes 8 value.toUInt64.toNat

def i128 (value : BitVec 128) : List UInt8 := LittleEndian.bytes 16 value.toNat

def boolean (value : Bool) : List UInt8 := [if value then 1 else 0]

def pubkey (text : String) : List UInt8 := addressBytes text

/-- The length of the text in bytes stands before its bytes. -/
def string (text : String) : List UInt8 :=
  u32 (UInt32.ofNat text.utf8ByteSize) ++ text.toByteArray.data.toList

def shareholder (value : PumpShareholder) : List UInt8 :=
  [pubkey value.address, u16 value.shareBasisPoints].flatten

def shareholders (values : List PumpShareholder) : List UInt8 :=
  u32 (UInt32.ofNat values.length) ++ (values.map shareholder).flatten

end Encoding

/-- A text whose bytes do not exceed the limit. -/
def FitsLimit (limit : Nat) (text : String) : Prop := text.utf8ByteSize ≤ limit

/-- At most the limit of shareholders with address texts. -/
def ValidShareholders (values : List PumpShareholder) : Prop :=
  values.length ≤ maxShareholders ∧ ∀ value ∈ values, IsAddress value.address

namespace BorshReader

theorem take_reads (field : String) (count : Nat) :
    Reads (take field count) id fun word => word.length = count :=
  Reads.take _ count

/-- A word is read by converting its little-endian number. -/
theorem word_reads {Value : Type} (field : String) (count : Nat) {convert : Nat → Value}
    {number : Value → Nat} (fits : ∀ value, number value < 256 ^ count)
    (back : ∀ value, convert (number value) = value)
    (forth : ∀ value < 256 ^ count, number (convert value) = value) :
    Reads (do return convert (LittleEndian.value (← take field count)))
      (fun value => LittleEndian.bytes count (number value)) fun _ => True := by
  have inverse : ∀ word : List UInt8, word.length = count →
      LittleEndian.bytes count (number (convert (LittleEndian.value word))) = word := by
    rintro word rfl
    rw [forth _ (LittleEndian.value_lt word), LittleEndian.bytes_value]
  refine ((take_reads field count).map (fun word => convert (LittleEndian.value word))
    (fun value => LittleEndian.bytes count (number value)) inverse).congr fun value => ?_
  rw [LittleEndian.length_bytes, LittleEndian.value_bytes (fits value), back]
  exact ⟨fun _ => trivial, fun _ => ⟨rfl, rfl⟩⟩

theorem u8_reads (field : String) : Reads (u8 field) Encoding.u8 fun _ => True := by
  have inverse : ∀ word : List UInt8, word.length = 1 → [word.headD 0] = word := by
    intro word length
    obtain ⟨byte, rfl⟩ := List.length_eq_one_iff.mp length
    rfl
  refine ((take_reads field 1).map (fun word => word.headD 0) Encoding.u8 inverse).congr
    fun value => ?_
  exact ⟨fun _ => trivial, fun _ => ⟨rfl, rfl⟩⟩

theorem u16_reads (field : String) : Reads (u16 field) Encoding.u16 fun _ => True :=
  word_reads field 2 UInt16.toNat_lt (fun _ => UInt16.ofNat_toNat)
    fun _ small => UInt16.toNat_ofNat_of_lt' small

theorem u32_reads (field : String) : Reads (u32 field) Encoding.u32 fun _ => True :=
  word_reads field 4 UInt32.toNat_lt (fun _ => UInt32.ofNat_toNat)
    fun _ small => UInt32.toNat_ofNat_of_lt' small

theorem u64_reads (field : String) : Reads (u64 field) Encoding.u64 fun _ => True :=
  word_reads field 8 UInt64.toNat_lt (fun _ => UInt64.ofNat_toNat)
    fun _ small => UInt64.toNat_ofNat_of_lt' small

theorem i64_reads (field : String) : Reads (i64 field) Encoding.i64 fun _ => True := by
  refine @word_reads Int64 field 8 (fun number => (UInt64.ofNat number).toInt64)
    (fun value => value.toUInt64.toNat) (fun value => value.toUInt64.toNat_lt) ?_ ?_
  · intro value
    rw [UInt64.ofNat_toNat, Int64.toInt64_toUInt64]
  · intro number small
    rw [UInt64.toUInt64_toInt64, UInt64.toNat_ofNat_of_lt' small]

theorem i128_reads (field : String) : Reads (i128 field) Encoding.i128 fun _ => True :=
  word_reads field 16 (fun value => value.isLt) (fun value => BitVec.ofNat_toNat 128 value)
    fun _ small => Nat.mod_eq_of_lt small

theorem boolean_reads (field : String) : Reads (boolean field) Encoding.boolean fun _ => True := by
  intro input value rest
  rw [boolean, bind_eq_ok]
  constructor
  · rintro ⟨byte, after, read, decoded⟩
    obtain ⟨-, rfl⟩ := (u8_reads field _ _ _).mp read
    refine ⟨trivial, ?_⟩
    split at decoded
    · obtain ⟨rfl, rfl⟩ := pure_eq_ok.mp decoded
      rfl
    · obtain ⟨rfl, rfl⟩ := pure_eq_ok.mp decoded
      rfl
    · cases decoded
  · rintro ⟨-, rfl⟩
    refine ⟨if value then 1 else 0, rest, (u8_reads field _ _ _).mpr ⟨trivial, rfl⟩, ?_⟩
    cases value with
    | true => rfl
    | false => rfl

theorem pubkey_reads (field : String) : Reads (pubkey field) Encoding.pubkey IsAddress := by
  have inverse : ∀ word : List UInt8, word.length = 32 → addressBytes (encodeBase58 word) = word :=
    fun word length => addressBytes_encodeBase58 length
  refine ((take_reads field 32).map encodeBase58 addressBytes inverse).congr fun text => ?_
  constructor
  · rintro ⟨length, same⟩
    exact ⟨_, length, same⟩
  · rintro ⟨bytes, length, rfl⟩
    rw [addressBytes_encodeBase58 length]
    exact ⟨length, rfl⟩

/-- A counted body is read when its count does not exceed the limit. -/
theorem counted_reads {Value : Type} (field : String) {limit : Nat} (small : limit < 2 ^ 32)
    {failure : Nat → DecodeError} {body : Nat → BorshReader Value} {size : Value → Nat}
    {encode : Value → List UInt8} {valid : Value → Prop}
    (reads : ∀ count, Reads (body count) encode fun value => size value = count ∧ valid value) :
    Reads (do
        let count := (← u32 field).toNat
        if count > limit then throw (failure count) else body count)
      (fun value => Encoding.u32 (UInt32.ofNat (size value)) ++ encode value)
      fun value => size value ≤ limit ∧ valid value := by
  intro input value rest
  rw [bind_eq_ok]
  constructor
  · rintro ⟨count, after, counted, read⟩
    obtain ⟨-, rfl⟩ := (u32_reads field _ _ _).mp counted
    change (if count.toNat > limit then _ else _ : BorshReader Value) _ = _ at read
    split at read
    · cases read
    · rename_i within
      obtain ⟨⟨same, accepted⟩, rfl⟩ := (reads _ _ _ _).mp read
      refine ⟨⟨by omega, accepted⟩, ?_⟩
      change _ = Encoding.u32 (UInt32.ofNat (size value)) ++ encode value ++ rest
      rw [same, UInt32.ofNat_toNat, List.append_assoc]
  · rintro ⟨⟨within, accepted⟩, rfl⟩
    refine ⟨UInt32.ofNat (size value), encode value ++ rest,
      (u32_reads field _ _ _).mpr ⟨trivial, by rw [List.append_assoc]⟩, ?_⟩
    have exact : (UInt32.ofNat (size value)).toNat = size value :=
      UInt32.toNat_ofNat_of_lt' (lt_of_le_of_lt within small)
    change (if (UInt32.ofNat (size value)).toNat > limit then _ else _ : BorshReader Value) _ = _
    rw [exact, if_neg (Nat.not_lt.mpr within)]
    exact (reads _ _ _ _).mpr ⟨⟨rfl, accepted⟩, rfl⟩

/-- The bytes of a text are read back as the text and no other bytes are. -/
theorem fromUTF8_eq_some {bytes : List UInt8} {text : String} :
    String.fromUTF8? ⟨bytes.toArray⟩ = some text ↔ bytes = text.toByteArray.data.toList := by
  unfold String.fromUTF8?
  constructor
  · intro decoded
    split at decoded
    · cases decoded
      rfl
    · cases decoded
  · rintro rfl
    have whole : (⟨text.toByteArray.data.toList.toArray⟩ : ByteArray) = text.toByteArray := by simp
    rw [dif_pos (whole ▸ text.isValidUTF8)]
    congr 1

/-- The text of the bytes of a string. -/
def utf8Text (field : String) (bytes : List UInt8) : BorshReader String :=
  match String.fromUTF8? ⟨bytes.toArray⟩ with
  | none => throw (.invalidUtf8 field)
  | some text => return text

theorem string_reads (field : String) {limit : Nat} (small : limit < 2 ^ 32) :
    Reads (string field limit) Encoding.string (FitsLimit limit) := by
  have body : ∀ length, Reads (do utf8Text field (← take field length))
      (fun text => text.toByteArray.data.toList) fun text =>
        text.utf8ByteSize = length ∧ True := by
    intro length input text rest
    rw [bind_eq_ok]
    constructor
    · rintro ⟨bytes, after, taken, read⟩
      obtain ⟨rfl, rfl⟩ := (take_reads field _ _ _ _).mp taken
      unfold utf8Text at read
      cases decoded : String.fromUTF8? ⟨bytes.toArray⟩ with
      | none =>
          rw [decoded] at read
          cases read
      | some decodedText =>
          rw [decoded] at read
          obtain ⟨rfl, rfl⟩ := pure_eq_ok.mp read
          have same := fromUTF8_eq_some.mp decoded
          subst same
          exact ⟨⟨by simp, trivial⟩, rfl⟩
    · rintro ⟨⟨rfl, -⟩, rfl⟩
      refine ⟨text.toByteArray.data.toList, rest,
        (take_reads field _ _ _ _).mpr ⟨by simp, rfl⟩, ?_⟩
      unfold utf8Text
      rw [fromUTF8_eq_some.mpr rfl]
      rfl
  exact (counted_reads field small body).congr fun text => and_iff_left trivial

instance (field : String) : Readable (u8 field) Encoding.u8 fun _ => True := ⟨u8_reads field⟩

instance (field : String) : Readable (u16 field) Encoding.u16 fun _ => True := ⟨u16_reads field⟩

instance (field : String) : Readable (u64 field) Encoding.u64 fun _ => True := ⟨u64_reads field⟩

instance (field : String) : Readable (i64 field) Encoding.i64 fun _ => True := ⟨i64_reads field⟩

instance (field : String) : Readable (i128 field) Encoding.i128 fun _ => True := ⟨i128_reads field⟩

instance (field : String) : Readable (boolean field) Encoding.boolean fun _ => True :=
  ⟨boolean_reads field⟩

instance (field : String) : Readable (pubkey field) Encoding.pubkey IsAddress :=
  ⟨pubkey_reads field⟩

instance (field : String) :
    Readable (string field maxNameBytes) Encoding.string (FitsLimit maxNameBytes) :=
  ⟨string_reads field (by decide)⟩

instance (field : String) :
    Readable (string field maxSymbolBytes) Encoding.string (FitsLimit maxSymbolBytes) :=
  ⟨string_reads field (by decide)⟩

instance (field : String) :
    Readable (string field maxUriBytes) Encoding.string (FitsLimit maxUriBytes) :=
  ⟨string_reads field (by decide)⟩

instance (field : String) : Readable (string field maxInstructionNameBytes) Encoding.string
    (FitsLimit maxInstructionNameBytes) :=
  ⟨string_reads field (by decide)⟩

theorem shareholder_reads :
    Reads shareholder Encoding.shareholder fun value => IsAddress value.address := by
  unfold shareholder Encoding.shareholder
  refine .ofLayout fun address shareBasisPoints value => ?_
  cases value
  simp [eq_comm]

theorem shareholders_reads : Reads shareholders Encoding.shareholders ValidShareholders :=
  counted_reads "shareholders" (by decide) shareholder_reads.repeated

instance : Readable shareholders Encoding.shareholders ValidShareholders := ⟨shareholders_reads⟩

end BorshReader
end Soldisco.SourcePump
