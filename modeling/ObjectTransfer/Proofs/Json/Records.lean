import ObjectTransfer.ObjectInfo
import ObjectTransfer.Proofs.Json.Grammar

/-!
# Records in JSON

Numbers, texts and the infos of objects survive the way through their JSON text.

Main statement: `ObjectInfo.read_pretty`.
-/

namespace ObjectTransfer

namespace Json

/-! ## Single values -/

theorem decodeNat_ofNat {size n : Nat} (h : n < size) (expected : String) :
    decodeNat size expected (.ofNat n) = .ok n := by
  have hle : (n : Int) ≤ (size : Int) - 1 := by omega
  simp [decodeNat, decodeInteger, Value.ofNat, hle, Except.map]

@[simp]
theorem decodeUInt16_ofNat (n : UInt16) : decodeUInt16 (.ofNat n.toNat) = .ok n := by
  simp [decodeUInt16, decodeNat_ofNat n.toNat_lt, Except.map]

@[simp]
theorem decodeUInt32_ofNat (n : UInt32) : decodeUInt32 (.ofNat n.toNat) = .ok n := by
  simp [decodeUInt32, decodeNat_ofNat n.toNat_lt, Except.map]

@[simp]
theorem decodeUInt64_ofNat (n : UInt64) : decodeUInt64 (.ofNat n.toNat) = .ok n := by
  simp [decodeUInt64, decodeNat_ofNat n.toNat_lt, Except.map]

/-- A 64-bit number with a sign lies between the bounds of such numbers. -/
theorem toInt_bounds (n : Int64) :
    -(Numeral.halfWord : Int) ≤ n.toInt ∧ n.toInt ≤ Numeral.halfWord - 1 := by
  have low := n.le_toInt
  have high := n.toInt_lt
  simp only [Numeral.halfWord]
  omega

@[simp]
theorem decodeInt64_ofInt (n : Int64) : decodeInt64 (.ofInt n.toInt) = .ok n := by
  simp [decodeInt64, decodeInteger, Value.ofInt, toInt_bounds n, Except.map]

@[simp]
theorem decodeString_ofString (s : String) : decodeString (.ofString s) = .ok s := rfl

theorem isWritable_ofNat {n : Nat} (h : n < UInt64.size) : (Value.ofNat n).IsWritable := by
  simp only [Value.ofNat, Value.IsWritable, Numeral.halfWord]
  omega

theorem isWritable_ofInt (n : Int64) : (Value.ofInt n.toInt).IsWritable := by
  have := toInt_bounds n
  simp only [Value.ofInt, Value.IsWritable, Numeral.halfWord, UInt64.size] at *
  omega

/-- What is read from a pretty layout is what the value is taken for. -/
theorem decodeDocument_pretty {α : Type} {v : Value} (h : v.IsWritable)
    (read : Value → Except DecodeError α) : decodeDocument read v.pretty = read v := by
  rw [decodeDocument, Document.read_pretty h]
  rcases hread : read v with e | a <;> simp [bind, Except.bind, pure, Except.pure]

end Json

namespace ObjectInfo

theorem isWritable_toJson (i : ObjectInfo) : i.toJson.IsWritable := by
  have := i.handle.toNat_lt
  have := i.storage.toNat_lt
  have := i.format.toNat_lt
  have := i.parent.toNat_lt
  simp only [toJson, Json.Members.ofList, List.foldr]
  refine ⟨Json.isWritable_ofNat ?_, Json.isWritable_ofNat ?_, Json.isWritable_ofNat ?_,
    Json.isWritable_ofNat ?_, trivial, Json.isWritable_ofNat i.size.toNat_lt,
    Json.isWritable_ofNat i.thumbSize.toNat_lt, Json.isWritable_ofInt i.modified, trivial⟩ <;>
    simp only [UInt64.size] <;> omega

/-- An info is what its JSON value is taken for. -/
@[simp]
theorem ofJson_toJson (i : ObjectInfo) : ofJson i.toJson = .ok i := by
  simp [ofJson, toJson, Json.decodeRecord, ofMembers, Json.Members.ofList, Json.foldMembers,
    Draft.put, Json.readField, Draft.finish, Json.required, Except.map, bind, Except.bind, pure,
    Except.pure]

/-- An info survives the way through its JSON text. -/
theorem read_pretty (i : ObjectInfo) : read i.toJson.pretty = .ok i := by
  rw [read, Json.decodeDocument_pretty i.isWritable_toJson, ofJson_toJson]

end ObjectInfo

end ObjectTransfer
