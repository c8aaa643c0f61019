import Mathlib.Data.Finset.Card

/-
  Identifiers of the protocol.

  An identifier is kept as the number its bytes spell with the
  first byte highest, so that the order on identifiers is the
  lexicographic order on their bytes.

  Main declarations:
    * `NodeId`
    * `ArtifactId`
    * `Hashing`
-/

----
-- Fixed-Width Identifiers
----

namespace IntelligenceNetwork

structure NodeId where
  bytes : BitVec 256
  deriving DecidableEq

structure JobId where
  bytes : BitVec 128
  deriving DecidableEq

structure ArtifactId where
  bytes : BitVec 256
  deriving DecidableEq

structure RequestId where
  bytes : BitVec 128
  deriving DecidableEq

structure DhtKey where
  bytes : BitVec 256
  deriving DecidableEq

/- Raw Ed25519 verification keys. -/
abbrev PublicKey := BitVec 256

/- Raw handshake and liveness nonces. -/
abbrev Nonce := BitVec 128

/- The default of every identifier is all zeros. -/
instance : Inhabited NodeId := ⟨⟨0⟩⟩
instance : Inhabited JobId := ⟨⟨0⟩⟩
instance : Inhabited ArtifactId := ⟨⟨0⟩⟩
instance : Inhabited RequestId := ⟨⟨0⟩⟩
instance : Inhabited DhtKey := ⟨⟨0⟩⟩

/- The lowest hexadecimal digits of a number, highest first. -/
def hexDigits : Nat → Nat → List Char
| 0, _ => []
| width + 1, value => hexDigits width (value / 16) ++ [Nat.digitChar (value % 16)]

----
-- Order
----

/- An identifier is named by the number that its bytes spell. -/
theorem toNat_injective {ι : Type} {width : Nat} {bytes : ι → BitVec width}
    (hBytes : Function.Injective bytes) : Function.Injective (fun id => (bytes id).toNat) := by
  intro a b hEq
  exact hBytes (BitVec.eq_of_toNat_eq hEq)

instance : LinearOrder NodeId :=
  LinearOrder.lift' (fun id => id.bytes.toNat) (toNat_injective (by rintro ⟨⟩ ⟨⟩ ⟨⟩; rfl))

instance : LinearOrder JobId :=
  LinearOrder.lift' (fun id => id.bytes.toNat) (toNat_injective (by rintro ⟨⟩ ⟨⟩ ⟨⟩; rfl))

instance : LinearOrder ArtifactId :=
  LinearOrder.lift' (fun id => id.bytes.toNat) (toNat_injective (by rintro ⟨⟩ ⟨⟩ ⟨⟩; rfl))

instance : LinearOrder RequestId :=
  LinearOrder.lift' (fun id => id.bytes.toNat) (toNat_injective (by rintro ⟨⟩ ⟨⟩ ⟨⟩; rfl))

instance (priority := low) instLawfulEqOrd {ι : Type} [LinearOrder ι] : Std.LawfulEqOrd ι where
  eq_of_compare := by
    intro a b hEq
    exact compare_eq_iff_eq.mp hEq

----
-- Content Hashes
----

/-
  The hash functions of the protocol.  Both are BLAKE3 over
  fixed byte strings; nothing here depends on more than that
  they are functions.
-/
structure Hashing where
  nodeIdFromPublicKey : PublicKey → NodeId
  artifactIdFromBytesHashed : List UInt8 → ArtifactId

end IntelligenceNetwork
