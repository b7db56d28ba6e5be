import MetesBounds.Digest.Sha256
import MetesBounds.Error
import MetesBounds.Json

/-!
# `Fingerprint` — what tells configurations apart

A configuration is identified by the first sixteen hexadecimal digits of the digest of its
canonical text, if that can be written.
-/

set_option autoImplicit false

namespace MetesBounds

/-- Bytes in hexadecimal. -/
def hexOf (bytes : List UInt8) : List Char := bytes.flatMap fun b => Text.Quoted.hex 2 b.toNat

/-- The first digits of the digest of a text of ASCII, which has a byte for each character. -/
def digestOf (cs : List Char) : String :=
  String.ofList ((hexOf (Digest.sha256 (cs.map fun c => UInt8.ofNat c.toNat))).take 16)

/-- The fingerprint of a configuration. -/
def fingerprint (v : Value) : Except Error String :=
  if v.isOverlong then .error .overlong else .ok (digestOf v.canonical)

end MetesBounds
