import LocalCloud.Json.Decode

/-!
# Keys in headers

The header of a signed text may carry a key as a JSON object.  The key is not used, but a
header with a key that cannot be read is no header.
-/

namespace LocalCloud.WebKey

open Json (Node)
open Json.Decode

/-- A field of a key, and which values it takes. -/
structure Field where
  name : String
  takes : Node → Bool

def text (name : String) : Field :=
  ⟨name, fun node => (string node).isSome⟩

def texts (name : String) : Field :=
  ⟨name, fun node => (list string node).isSome⟩

/-- A field for one of several names. -/
def oneOf (name : String) (names : List String) : Field :=
  ⟨name, fun node => (choice (fun found => names.find? (· == found)) node).isSome⟩

def algorithms : List String :=
  ["HS256", "HS384", "HS512", "ES256", "ES384", "RS256", "RS384", "RS512", "PS256", "PS384",
    "PS512", "EdDSA", "RSA1_5", "RSA-OAEP", "RSA-OAEP-256"]

def curves : List String := ["P-256", "P-384", "P-521", "Ed25519"]

/-- The fields that a key of any kind may have. -/
def common : List Field :=
  [text "use", texts "key_ops", oneOf "alg" algorithms, text "kid", text "x5u", texts "x5c",
    text "x5t", text "x5t#S256"]

/-- The fields of each kind of key: keys on elliptic curves, of RSA, of octets, and pairs of
octets. -/
def kinds : List (List Field) :=
  [[oneOf "kty" ["EC"], oneOf "crv" curves, text "x", text "y"],
    [oneOf "kty" ["RSA"], text "n", text "e"],
    [oneOf "kty" ["oct"], text "k"],
    [oneOf "kty" ["OKP"], oneOf "crv" curves, text "x"]]

/-- Whether an object has each of some fields once, with a value that it takes; a field that
`mayLack` holds of may be absent or null. -/
def hasFields (mayLack : Bool) (fields : List Field) (node : Node) : Bool :=
  match record (fields.map Field.name) node with
  | some found => (found.zip fields).all fun (value, field) =>
    match value with
    | none | some .null => mayLack
    | some value => field.takes value
  | none => false

/-- Whether a key can be read: it is an object whose values are readable to their last part,
with the common fields and those of one kind. -/
def isReadable (node : Node) : Bool :=
  match node with
  | .object _ => (node.toValueWithin? (Node.maxDepth - 1)).isSome && hasFields true common node
    && kinds.any fun fields => hasFields false fields node
  | _ => false

end LocalCloud.WebKey
