import LocalCloud.Access.Policy
import LocalCloud.Json.Printer
import LocalCloud.Summary.Basic

/-!
# Summaries of what access depends on

Policies by all their names, public keys by their numbers, and what the claims of
a token say about whom they are for.
-/

namespace LocalCloud

open scoped Summary

instance : Summary PolicyKind where
  summary kind := .object
    [("kind", kind.title), ("name", kind.name), ("security", kind.security),
      ("json", kind.toJson.text)]

instance : Summary Crypto.Rsa.PublicKey where
  summary key := .object
    [("bytes", key.size), ("n", String.ofList (Nat.toDigits 16 key.modulus)),
      ("e", toString key.exponent)]

instance : Summary Claims where
  summary claims := .object
    [("claims", claims.toJson), ("consumer", claims.consumer), ("interface", claims.interface),
      ("service", claims.service)]

end LocalCloud
