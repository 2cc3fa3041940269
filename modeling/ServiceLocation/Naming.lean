import ServiceLocation.Digest.Base32
import ServiceLocation.Digest.Sha256
import ServiceLocation.Text.Ending
import ServiceLocation.Text.LowerCase

/-!
**Names made from hashes.**

* `label`: the Base32 digits of the SHA-256 digest of a value, always `labelLength` of them;
* `dnsName`: such a label with a text in front, then the scheme if there is one, then the zone,
  joined by dots; one dot at the end is dropped.
-/

namespace ServiceLocation.Naming

open ServiceLocation.Text ServiceLocation.Digest

/-- The number of characters of a label. -/
def labelLength : Nat := 52

/-- The bytes that are hashed for a value, which is lower-cased first if `lowercase` says so. -/
def hashInput (lowercase : Bool) (value : String) : List UInt8 :=
  (if lowercase then lowerCased value else value).toUTF8.toList

/-- The label of a value: the digits of its digest in capitals, without signs of padding behind them. -/
def label (lowercase : Bool) (value : String) : String :=
  let digits := Base32.encode (sha256 (hashInput lowercase value))
  String.ofList ((dropFinals '=' digits).map Char.toUpper)

/-- The name of a label under an optional scheme in a zone. -/
def dnsName (labelPrefix label : String) (scheme : Option String) (zone : String) : String :=
  let middle := match scheme.filter (!·.isEmpty) with
    | some scheme => "." ++ scheme
    | none => ""
  String.ofList (dropFinal '.' (labelPrefix ++ label ++ middle ++ "." ++ zone).toList)

end ServiceLocation.Naming
