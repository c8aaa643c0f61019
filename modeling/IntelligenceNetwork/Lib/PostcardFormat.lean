import IntelligenceNetwork.Lib.LittleEndian

/-
  The postcard wire format, as far as plain records need it.

  Main declarations:
    * `varint`
    * `zigzag`
    * `seq`
    * `record`
-/

----
-- Encoders
----

namespace PostcardFormat

/- Seven bits a byte, lowest first, high bit for "more". -/
def varintFrom : Nat → Nat → List UInt8
| 0, _ => []
| fuel + 1, value =>
  if value < 128 then
    [UInt8.ofNat value]
  else
    UInt8.ofNat (128 + value % 128) :: varintFrom fuel (value / 128)

/- Ten bytes hold every 64-bit value. -/
def varint (value : Nat) : List UInt8 :=
  varintFrom 10 value

/- Signed integers alternate around zero. -/
def zigzag (value : Int) : List UInt8 :=
  varint (if 0 ≤ value then
    2 * value.toNat
    else
      2 * (-value).toNat - 1)

/- A byte array of known width has no length mark. -/
def fixedBytes (width : Nat) {bits : Nat} (value : BitVec bits) : List UInt8 :=
  (LittleEndian.encode width value.toNat).reverse

/- A sequence is its length and its items. -/
def seq {α : Type*} (item : α → List UInt8) (items : List α) : List UInt8 :=
  varint items.length ++ items.flatMap item

/- A record is its fields in order. -/
def record (fields : List (List UInt8)) : List UInt8 :=
  fields.flatten

@[simp] theorem length_fixedBytes (width : Nat) {bits : Nat} (value : BitVec bits) :
    (fixedBytes width value).length = width := by
  simp [fixedBytes]

/- A record is at least as long as each of its fields. -/
theorem length_le_length_record {fields : List (List UInt8)} {field : List UInt8}
    (hField : field ∈ fields) : field.length ≤ (record fields).length :=
  (List.sublist_flatten_of_mem hField).length_le

/- Items of one width bound the sequence from below. -/
theorem length_le_length_seq {α : Type*} (item : α → List UInt8) (width : Nat)
    (hWidth : ∀ a, (item a).length = width) {items : List α} :
    items.length * width ≤ (seq item items).length := by
  have hItems : (items.flatMap item).length = items.length * width := by
    induction items with
    | nil => simp
    | cons a items ih => simp [List.flatMap_cons, hWidth, ih, Nat.succ_mul, Nat.add_comm]
  simp [seq, hItems]

end PostcardFormat
