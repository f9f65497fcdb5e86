import LocalCloud.Token.Envelope
import LocalCloud.Token.Signature

/-!
# Authorization tokens

A token is a signed text of claims in an envelope for the provider.  The provider
opens it with its own private key, verifies the signature with the public key of
the authorization system and checks the claims against the clock.
-/

namespace LocalCloud.Token

open Crypto.Rsa (PrivateKey)

/-- The signed text inside an envelope. -/
def openSigned (token : String) (providerKey : PrivateKey) : Except Error String := do
  let bytes ← Envelope.decrypt token providerKey
  let text ← Error.ofOption (.malformedToken "signed payload is not UTF-8: ill-formed bytes")
    (Utf8.decode? bytes)
  return Text.trim text

/-- The encoding and hash named in the header of a signed text. -/
def signatureScheme (text : String) :
    Except Error (Crypto.Rsa.SignatureEncoding × Crypto.Hash) := do
  let algorithm ← Error.ofOption (.malformedToken "invalid JWS header: unreadable")
    (SignedClaims.algorithm? text)
  Error.ofOption (.malformedToken ("unsupported signature algorithm " ++ algorithm.name))
    algorithm.rsa?

/-- Opens a token, verifies its signature and checks its claims. -/
def verify (token : String) (providerKey : PrivateKey) (authorizationPem : String) (now : Int64) :
    Except Error Claims := do
  let text ← openSigned token providerKey
  let (encoding, hash) ← signatureScheme text
  let key ← Error.ofOption (.crypto "invalid authorization public key: no RSA key in PEM form")
    (SignedClaims.verificationKey? authorizationPem)
  let claims ← Error.ofOption (.invalidToken "signature verification failed: it does not hold")
    (SignedClaims.read? text key encoding hash)
  claims.validate now
  return claims

end LocalCloud.Token
