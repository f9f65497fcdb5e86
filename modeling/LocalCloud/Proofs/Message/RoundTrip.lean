import LocalCloud.Message.ErrorBody
import LocalCloud.Message.Event
import LocalCloud.Proofs.Json.Reading
import LocalCloud.Proofs.Message.Interface
import LocalCloud.Token.Claims

/-!
# Written messages are read back

A record is written as an object in which absent fields are left out, and read field
by field.  Reading takes the document apart first, which gives back the fields as
they were written whatever the texts in them are, and then every field is decoded.
-/

namespace LocalCloud

namespace Json

variable {α : Type} {encode : α → Value} {decode : Decoder α}

/-- What a value is written as is read as that value, as text and as bytes. -/
def ReadsBack (encode : α → Value) (decode : Decoder α) (value : α) : Prop :=
  decodeString? decode (encode value).text = some value ∧
    decodeBytes? decode (encode value).bytes = some value

theorem readsBack_of_decode {value : α} (hintegral : (encode value).IsIntegral)
    (hdecode : decode (encode value).toNode = some value) : ReadsBack encode decode value := by
  constructor
  · rw [decodeString?, Node.ofString?_text _ hintegral, Option.bind_some, hdecode]
  · rw [decodeBytes?, Node.ofBytes?_bytes _ hintegral, Option.bind_some, hdecode]

section Fields

/-- A field that is left out when there is no value. -/
theorem Decode.optional_map {write : α → Node}
    (h : ∀ value, nullable decode (write value) = some (some value)) (value : Option α) :
    optional decode (value.map write) = some value := by
  cases value with
  | none => rfl
  | some value => exact h value

theorem Decode.nat16_toNode (n : UInt16) :
    nat16 (Value.ofNat n.toNat).toNode = some n.toNat := by
  have hbounds : (0 : Int) ≤ (n.toNat : Int) ∧ (n.toNat : Int) ≤ 65535 := by
    have hn := n.toNat_lt
    omega
  rw [nat16, Value.ofNat, Value.toNode, int, if_pos hbounds]
  rfl

theorem Decode.word64_toNode (n : Int64) : word64 (Value.ofInt n.toInt).toNode = some n := by
  have hlow := n.le_toInt
  have hhigh := n.toInt_lt
  have hbounds : -9223372036854775808 ≤ n.toInt ∧ n.toInt ≤ 9223372036854775807 := by omega
  rw [word64, Value.ofInt, Value.toNode, int64, int, if_pos hbounds, Option.map_some,
    Int64.ofInt_toInt]

theorem Value.isIntegral_nat16 (n : UInt16) : (Value.ofNat n.toNat).IsIntegral := by
  have hn := n.toNat_lt
  simp only [ofNat, IsIntegral, Number.IsWord, Number.maxUnsigned]
  omega

theorem Value.isIntegral_int64 (n : Int64) : (Value.ofInt n.toInt).IsIntegral := by
  have hlow := n.le_toInt
  have hhigh := n.toInt_lt
  simp only [ofInt, IsIntegral, Number.IsWord, Number.maxUnsigned]
  omega

theorem Value.isIntegral_ofTexts (dict : Dict String) : (Value.ofTexts dict).IsIntegral := by
  apply Value.fieldsAreIntegral_iff.2
  rw [List.forall_mem_map]
  intro entry hentry
  trivial

theorem Value.toFields_texts (entries : List (String × String)) :
    Value.toFields (entries.map fun entry => (entry.1, .string entry.2)) =
      entries.map fun entry => (some entry.1, .string (some entry.2)) := by
  induction entries with
  | nil => rfl
  | cons entry entries ih =>
      rw [List.map_cons, Value.toFields, ih]
      rfl

theorem Decode.dict_texts (entries : List (String × String)) :
    dict string (.object (entries.map fun entry => (some entry.1, .string (some entry.2)))) =
      some (Dict.ofList entries) := by
  have hread : (entries.map fun entry => (some entry.1, Node.string (some entry.2))).mapM
      (fun (field : Option String × Node) => do
        let key ← field.1
        let value ← string field.2
        some (key, value)) = some entries := by
    rw [List.mapM_map]
    change entries.mapM (fun entry => pure entry) = some entries
    rw [List.mapM_pure, List.map_id']
    rfl
  rw [dict, hread, Option.map_some]

/-- A dictionary of texts is made again of the fields it is written as. -/
theorem Decode.dict_toNode (texts : Dict String) :
    dict string (Value.ofTexts texts).toNode = some texts := by
  rw [Value.ofTexts, Value.toNode, Value.toFields_texts, Decode.dict_texts, Dict.ofList_entries]

end Fields

end Json

open Json (ReadsBack Value Node)
open Json.Decode

namespace System

theorem isIntegral_toJson (system : System) : system.toJson.IsIntegral := by
  obtain ⟨name, address, port, info⟩ := system
  have hport := Value.isIntegral_nat16 port
  cases info with
  | none => exact ⟨trivial, trivial, hport, trivial⟩
  | some info => exact ⟨trivial, trivial, hport, trivial, trivial⟩

theorem record_toNode (system : System) :
    record ["systemName", "address", "port", "authenticationInfo"] system.toJson.toNode =
      some [some (.string system.name), some (.string system.address),
        some (Value.ofNat system.port.toNat).toNode,
        system.authenticationInfo.map fun info => .string (some info)] := by
  obtain ⟨name, address, port, info⟩ := system
  cases info <;> rfl

theorem decode_toNode (system : System) : decode system.toJson.toNode = some system := by
  have hinfo : optional string (system.authenticationInfo.map fun info => .string (some info)) =
      some system.authenticationInfo := optional_map (fun _ => rfl) _
  rw [decode, record_toNode]
  simp [required, string, nat16_toNode, hinfo]

end System

namespace ErrorBody

theorem isIntegral_toJson (body : ErrorBody) : body.toJson.IsIntegral := by
  obtain ⟨reason, code, exceptionType⟩ := body
  cases code with
  | none => cases exceptionType <;> exact ⟨trivial, by trivial⟩
  | some code =>
      have hcode := Value.isIntegral_nat16 code
      cases exceptionType <;> exact ⟨trivial, hcode, by trivial⟩

theorem record_toNode (body : ErrorBody) :
    record ["errorMessage", "errorCode", "exceptionType"] body.toJson.toNode =
      some [some (.string body.reason),
        body.code.map fun code => (Value.ofNat code.toNat).toNode,
        body.exceptionType.map fun name => .string (some name)] := by
  obtain ⟨reason, code, exceptionType⟩ := body
  cases code <;> cases exceptionType <;> rfl

theorem decode_toNode (body : ErrorBody) : decode body.toJson.toNode = some body := by
  have hcode : optional nat16 (body.code.map fun code => (Value.ofNat code.toNat).toNode) =
      some (body.code.map UInt16.toNat) := by
    cases body.code with
    | none => rfl
    | some code => exact congrArg (Option.map some) (nat16_toNode code)
  have hname : optional string (body.exceptionType.map fun name => .string (some name)) =
      some body.exceptionType := optional_map (fun _ => rfl) _
  have hwords : UInt16.ofNat ∘ UInt16.toNat = id := by
    funext code
    exact UInt16.ofNat_toNat
  rw [decode, record_toNode]
  simp [required, string, hcode, hname, hwords]

end ErrorBody

namespace Event

theorem isIntegral_toJson (event : Event) : event.toJson.IsIntegral :=
  ⟨trivial, Value.isIntegral_ofTexts event.metadata, trivial, trivial, trivial⟩

theorem record_toNode (event : Event) :
    record ["eventType", "metaData", "payload", "timeStamp"] event.toJson.toNode =
      some [some (.string event.eventType), some (Value.ofTexts event.metadata).toNode,
        some (.string event.payload), some (.string event.timeStamp)] := rfl

theorem decode_toNode (event : Event) : decode event.toJson.toNode = some event := by
  have hmetadata : nullDefault ∅ (dict string) (some (Value.ofTexts event.metadata).toNode) =
      some event.metadata := dict_toNode event.metadata
  have htext (text : String) : nullDefault "" string (some (.string (some text))) = some text := rfl
  rw [decode, record_toNode]
  simp [required, string, hmetadata, htext]

end Event

namespace Claims

theorem isIntegral_toJson (claims : Claims) : claims.toJson.IsIntegral := by
  obtain ⟨tokenId, issuer, issuedAt, notBefore, expiry, consumer, service, interface⟩ := claims
  have hissued := Value.isIntegral_int64 issuedAt
  have hstarted := Value.isIntegral_int64 notBefore
  cases expiry with
  | none => exact ⟨trivial, trivial, hissued, hstarted, trivial, trivial, by trivial⟩
  | some expiry =>
      have hexpiry := Value.isIntegral_int64 expiry
      exact ⟨trivial, trivial, hissued, hstarted, hexpiry, trivial, trivial, by trivial⟩

/-- The fields of written claims are found again. -/
theorem record_toNode (claims : Claims) :
    record ["jti", "iss", "iat", "nbf", "exp", "cid", "sid", "iid"] claims.toJson.toNode =
      some [some (.string claims.tokenId), some (.string claims.issuer),
        some (Value.ofInt claims.issuedAt.toInt).toNode,
        some (Value.ofInt claims.notBefore.toInt).toNode,
        claims.expiry.map fun n => (Value.ofInt n.toInt).toNode,
        some (.string claims.consumer), some (.string claims.service),
        some (.string claims.interface)] := by
  obtain ⟨tokenId, issuer, issuedAt, notBefore, expiry, consumer, service, interface⟩ := claims
  cases expiry <;> rfl

/-- Written claims are read back. -/
theorem decode_toNode (claims : Claims) : decode claims.toJson.toNode = some claims := by
  have hexpiry : optional word64 (claims.expiry.map fun n => (Value.ofInt n.toInt).toNode) =
      some claims.expiry := by
    apply optional_map
    intro n
    exact congrArg (Option.map some) (word64_toNode n)
  rw [decode, record_toNode]
  simp [required, defaulted, string, word64_toNode, hexpiry]

end Claims

/-- Systems, error bodies, events, claims and interfaces are read back from what they
are written as. -/
theorem readsBack_of_written :
    (∀ system, ReadsBack System.toJson System.decode system) ∧
      (∀ body, ReadsBack ErrorBody.toJson ErrorBody.decode body) ∧
      (∀ event, ReadsBack Event.toJson Event.decode event) ∧
      (∀ claims, ReadsBack Claims.toJson Claims.decode claims) ∧
      ∀ text interface, Interface.ofString text = .ok interface →
        ReadsBack Interface.toJson Interface.decode interface := by
  refine ⟨?system, ?body, ?event, ?claims, ?interface⟩
  case system =>
    intro system
    exact Json.readsBack_of_decode system.isIntegral_toJson system.decode_toNode
  case body =>
    intro body
    exact Json.readsBack_of_decode body.isIntegral_toJson body.decode_toNode
  case event =>
    intro event
    exact Json.readsBack_of_decode event.isIntegral_toJson event.decode_toNode
  case claims =>
    intro claims
    exact Json.readsBack_of_decode claims.isIntegral_toJson claims.decode_toNode
  case interface =>
    intro text interface hread
    apply Json.readsBack_of_decode
    · trivial
    · change (Interface.ofString interface.toString).toOption = some interface
      rw [Interface.ofString_toString hread]
      rfl

/-- An event whose texts hold a quotation mark, a backslash, a control character and a
character outside the first plane. -/
def awkwardEvent : Event where
  eventType := "a\"b\\"
  metadata := Dict.ofList [("key\n", "😀"), ("", "\x01")]
  payload := "ß"

theorem readsBack_of_written_awkward :
    Interface.ofString "http-secure-ßon" = .ok ⟨"HTTP", "SECURE", "SSON"⟩ ∧
      ReadsBack Interface.toJson Interface.decode ⟨"HTTP", "SECURE", "SSON"⟩ ∧
      ReadsBack Event.toJson Event.decode awkwardEvent := by
  obtain ⟨-, -, hevent, -, hinterface⟩ := readsBack_of_written
  have hread : Interface.ofString "http-secure-ßon" = .ok ⟨"HTTP", "SECURE", "SSON"⟩ := by
    decide +kernel
  exact ⟨hread, hinterface _ _ hread, hevent awkwardEvent⟩

end LocalCloud
