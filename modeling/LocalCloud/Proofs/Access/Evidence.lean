import LocalCloud.Provider.Serve

/-!
# What a request shows about its caller

A provider judges a caller by two things: a certificate, which a verified peer
brings along or a trusted proxy forwards, and the `Authorization` header.  This
file states where they come from without reference to the functions that look
for them, and proves that those functions find exactly them.
-/

namespace LocalCloud

open Http (Headers Peer Request)

/-- The first of the values under a header name; the name may be repeated. -/
def Http.Headers.HasFirst (headers : Headers) (name : String) (value : Bytes) : Prop :=
  ∃ before after, headers = before ++ (name, value) :: after ∧
    ∀ header ∈ before, header.1 ≠ name

theorem Http.Headers.first?_eq_some_iff {headers : Headers} {name : String} {value : Bytes} :
    headers.first? name = some value ↔ headers.HasFirst name value := by
  unfold Http.Headers.first? Http.Headers.HasFirst
  rw [Option.map_eq_some_iff]
  constructor
  · rintro ⟨header, hfind, rfl⟩
    obtain ⟨hname, before, after, hsplit, hbefore⟩ := List.find?_eq_some_iff_append.1 hfind
    obtain rfl : header.1 = name := by simpa using hname
    exact ⟨before, after, hsplit, fun other hother => by simpa using hbefore other hother⟩
  · rintro ⟨before, after, hsplit, hbefore⟩
    refine ⟨(name, value), List.find?_eq_some_iff_append.2 ⟨by simp, before, after, hsplit, ?_⟩, rfl⟩
    intro other hother
    simpa using hbefore other hother

theorem Http.Headers.firstText?_eq_some_iff {headers : Headers} {name text : String} :
    headers.firstText? name = some text ↔
      ∃ value, headers.HasFirst name value ∧ Http.headerText? value = some text := by
  simp only [Http.Headers.firstText?, Option.bind_eq_some_iff, Http.Headers.first?_eq_some_iff]

/-- The certificate that stands for the caller: that of a verified peer, and
otherwise the one in the first value of the header of a trusted proxy. -/
inductive CallerCertificate (proxyHeader : Option String) (request : Request) : String → Prop where
  | verified {pem : String} (hpeer : request.peer = .verified pem) :
      CallerCertificate proxyHeader request pem
  | forwarded {name text pem : String} {value : Bytes}
      (hpeer : ∀ other, request.peer ≠ .verified other) (hheader : proxyHeader = some name)
      (hfirst : request.headers.HasFirst name value) (htext : Http.headerText? value = some text)
      (hdecode : Percent.decode? text = some pem) :
      CallerCertificate proxyHeader request pem

theorem Http.Peer.certificate?_eq_none_iff {peer : Peer} :
    peer.certificate? = none ↔ ∀ pem, peer ≠ .verified pem := by
  cases peer <;> simp [Http.Peer.certificate?]

theorem callerCertificate_eq_some_iff {proxyHeader : Option String} {request : Request}
    {pem : String} :
    callerCertificate proxyHeader request = some pem ↔
      CallerCertificate proxyHeader request pem := by
  unfold callerCertificate
  constructor
  · intro h
    cases hpeer : request.peer with
    | verified found =>
        rw [hpeer] at h
        obtain rfl : found = pem := by simpa [Http.Peer.certificate?] using h
        exact .verified hpeer
    | unasked | anonymous =>
        rw [hpeer] at h
        simp only [Http.Peer.certificate?, Option.bind_eq_bind, Option.bind_eq_some_iff] at h
        obtain ⟨name, hheader, text, htext, hdecode⟩ := h
        obtain ⟨value, hfirst, hvalue⟩ := Http.Headers.firstText?_eq_some_iff.1 htext
        exact .forwarded (by simp [hpeer]) hheader hfirst hvalue hdecode
  · intro h
    cases h with
    | verified hpeer => simp [hpeer, Http.Peer.certificate?]
    | forwarded hpeer hheader hfirst htext hdecode =>
        have hfound := Http.Headers.firstText?_eq_some_iff.2 ⟨_, hfirst, htext⟩
        simp [Http.Peer.certificate?_eq_none_iff.2 hpeer, hheader, hfound, hdecode]

/-- What a caller presents: the certificate and the first `Authorization` value,
as far as there are any. -/
structure Presents (proxyHeader : Option String) (request : Request) (access : AccessRequest) :
    Prop where
  certificate : ∀ pem, access.certificate = some pem ↔ CallerCertificate proxyHeader request pem
  authorization : ∀ text, access.authorization = some text ↔
    ∃ value, request.headers.HasFirst "authorization" value ∧ Http.headerText? value = some text

theorem presents_iff {proxyHeader : Option String} {request : Request} {access : AccessRequest} :
    Presents proxyHeader request access ↔ access = credentials proxyHeader request := by
  constructor
  · rintro ⟨hcertificate, hauthorization⟩
    have hleft : access.certificate = callerCertificate proxyHeader request :=
      Option.ext fun pem => by rw [hcertificate, callerCertificate_eq_some_iff]
    have hright : access.authorization = request.headers.firstText? "authorization" :=
      Option.ext fun text => by rw [hauthorization, Http.Headers.firstText?_eq_some_iff]
    cases access
    simp_all [credentials]
  · rintro rfl
    exact ⟨fun pem => callerCertificate_eq_some_iff, fun text =>
      Http.Headers.firstText?_eq_some_iff⟩

/-- Two requests that show the same about their callers.  Other headers may
differ, and so may the header of a trusted proxy once the peer is verified. -/
structure SameEvidence (proxyHeader : Option String) (left right : Request) : Prop where
  peer : left.peer = right.peer
  authorization : ∀ value, left.headers.HasFirst "authorization" value ↔
    right.headers.HasFirst "authorization" value
  forwarded : (∀ pem, left.peer ≠ .verified pem) → ∀ name, proxyHeader = some name →
    ∀ value, left.headers.HasFirst name value ↔ right.headers.HasFirst name value

namespace SameEvidence

variable {proxyHeader : Option String} {left right : Request}

theorem symm (h : SameEvidence proxyHeader left right) : SameEvidence proxyHeader right left where
  peer := h.peer.symm
  authorization value := (h.authorization value).symm
  forwarded hpeer name hname value := by
    rw [← h.peer] at hpeer
    exact (h.forwarded hpeer name hname value).symm

theorem callerCertificate (h : SameEvidence proxyHeader left right) {pem : String}
    (hleft : CallerCertificate proxyHeader left pem) : CallerCertificate proxyHeader right pem := by
  cases hleft with
  | verified hpeer => exact .verified (h.peer.symm.trans hpeer)
  | forwarded hpeer hheader hfirst htext hdecode =>
      have hright := (h.forwarded hpeer _ hheader _).1 hfirst
      rw [h.peer] at hpeer
      exact .forwarded hpeer hheader hright htext hdecode

theorem credentials_eq (h : SameEvidence proxyHeader left right) :
    credentials proxyHeader left = credentials proxyHeader right := by
  rw [← presents_iff]
  constructor
  · intro pem
    rw [show (credentials proxyHeader left).certificate = some pem ↔
      CallerCertificate proxyHeader left pem from callerCertificate_eq_some_iff]
    exact ⟨h.callerCertificate, h.symm.callerCertificate⟩
  · intro text
    rw [show (credentials proxyHeader left).authorization = some text ↔ _ from
      Http.Headers.firstText?_eq_some_iff]
    simp only [h.authorization]

end SameEvidence

end LocalCloud
