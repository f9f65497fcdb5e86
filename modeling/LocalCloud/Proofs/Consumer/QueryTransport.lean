import LocalCloud.Proofs.Codec.Percent
import LocalCloud.Proofs.Orchestration.TokenTransport
import LocalCloud.Proofs.Provider.Mediation

/-!
# Parameters reach the handler

The parameters of a call are put behind an address, in one convention for a
handshake and in the other for a call over HTTP.  A provider reads both with the
same reading.  The parameters are followed here from either call to the handler.
-/

namespace LocalCloud

open Function (Injective LeftInverse)
open Http (Request Target)
open Percent (IsEncoding)

/-- An address without a query and without a fragment. -/
def IsPlainAddress (address : String) : Prop :=
  '?' ∉ address.toList ∧ '#' ∉ address.toList

instance (address : String) : Decidable (IsPlainAddress address) :=
  inferInstanceAs (Decidable (_ ∧ _))

/-- The value that counts of those a list gives a key. -/
def Params.last? (params : Params) (key : String) : Option String :=
  ((params.filter fun param => param.1 == key).map (·.2)).getLast?

namespace Query

/-- The parameters that are read off an address. -/
def ofAddress (address : String) : Params :=
  parse ((Target.ofString address).query.getD "")

/-- An address with parameters behind it, if there are any. -/
def address (encode : String → String) (base : String) (params : Params) : String :=
  if params.isEmpty then base else base ++ "?" ++ render encode params

section

variable {base : String} (hbase : IsPlainAddress base)
include hbase

theorem takeWhile_base (rest : List Char) :
    (base.toList ++ rest).takeWhile (· != '#') = base.toList ++ rest.takeWhile (· != '#') := by
  apply List.takeWhile_append_of_pos
  exact Text.bne_of_not_mem hbase.2

theorem ofString_base : Target.ofString base = ⟨base, none⟩ := by
  have htake : base.toList.takeWhile (· != '#') = base.toList := by
    simpa using takeWhile_base hbase []
  have hsplit : Text.splitOnce? '?' base.toList = none := Text.splitOnce?_of_not_mem hbase.1
  simp only [Target.ofString, htake, hsplit, String.ofList_toList]

/-- Behind a plain address the query is what follows the question mark. -/
theorem ofString_base_append {query : String} (hquery : '#' ∉ query.toList) :
    Target.ofString (base ++ "?" ++ query) = ⟨base, some query⟩ := by
  have hmark : "?".toList = ['?'] := by decide
  have hkept : ('?' :: query.toList).takeWhile (· != '#') = '?' :: query.toList := by
    apply List.takeWhile_eq_self_iff.2
    exact Text.bne_of_not_mem (List.not_mem_cons_of_ne_of_not_mem (by decide) hquery)
  have hchars : (base ++ "?" ++ query).toList.takeWhile (· != '#') =
      base.toList ++ '?' :: query.toList := by
    rw [String.toList_append, String.toList_append, hmark, List.append_assoc,
      List.singleton_append, takeWhile_base hbase, hkept]
  have hsplit : Text.splitOnce? '?' (base.toList ++ '?' :: query.toList) =
      some (base.toList, query.toList) := Text.splitOnce?_append_cons hbase.1 query.toList
  simp only [Target.ofString, hchars, hsplit, String.ofList_toList]

variable {encode : String → String} (h : IsEncoding encode)
include h

theorem ofString_address {params : Params} (hne : params ≠ []) :
    Target.ofString (address encode base params) = ⟨base, some (render encode params)⟩ := by
  have hempty : ¬ params.isEmpty = true := mt List.isEmpty_iff.1 hne
  rw [address, if_neg hempty, ofString_base_append hbase (hash_not_mem_render h params)]

/-- The parameters behind a plain address are those that were put there. -/
theorem ofAddress_address : LeftInverse ofAddress (address encode base) := by
  intro params
  by_cases hnil : params = []
  · subst hnil
    have hplain : address encode base [] = base := rfl
    rw [ofAddress, hplain, ofString_base hbase]
    rfl
  · rw [ofAddress, ofString_address hbase h hnil, Option.getD_some, parse_render h]

end

end Query

theorem WebSocketCall.urlOf_eq (base : String) :
    urlOf base = Query.address Percent.encode base := rfl

/-- A plain address has neither parameters to go behind nor a fragment to go before. -/
theorem Http.appendQuery_of_isPlainAddress {base : String} (hbase : IsPlainAddress base)
    (query : String) : appendQuery base query = base ++ "?" ++ query := by
  have htake : base.toList.takeWhile (· != '#') = base.toList := by
    simpa using Query.takeWhile_base hbase []
  have hdrop : base.toList.dropWhile (· != '#') = [] := by
    simpa [htake] using List.takeWhile_append_dropWhile (p := (· != '#')) (l := base.toList)
  have hmark : ¬ base.toList.contains '?' = true := by
    rw [List.contains_iff_mem]
    exact hbase.1
  apply String.toList_injective
  simp only [appendQuery, htake, hdrop, if_neg hmark, String.toList_ofList, String.toList_append,
    List.append_nil, List.append_assoc]
  rfl

theorem HttpCall.urlOf_eq {rule : OrchestrationRule} (hbase : IsPlainAddress rule.url)
    (request : ConsumeRequest) :
    urlOf rule request = Query.address Percent.encodeForm rule.url request.query := by
  rw [urlOf, Http.appendQuery_of_isPlainAddress hbase]
  rfl

/-- Parameters behind an address, and what a provider makes of them. -/
structure CarriesParams (base : String) (params : Params) (url : String) : Prop where
  /-- The query is read as the same parameters in the same order. -/
  read : ∃ query, url = base ++ "?" ++ query ∧ Target.ofString url = ⟨base, some query⟩ ∧
    Query.parse query = params
  /-- A request for the address that is admitted to a service is handed to the
  handler with the last value of every key. -/
  handed : ∀ {H E : Type} (provider : Provider H E) (moment : Moment) (request : Request)
    (provided : ProvidedService H), request.target.query = (Target.ofString url).query →
    provider.route request.target.path request.method = .service provided →
    Admits provider.proxyHeader moment request provided.policy →
    request.body.length ≤ bodyLimit →
    ∃ received, provider.handlerCalls moment request = [(provided.handler, received)] ∧
      ∀ key, received.query.get? key = params.last? key

/-- Both kinds of calls carry their parameters behind an address. -/
structure KeepsParams (base : String) : Prop where
  webSocket : ∀ params, params ≠ [] → CarriesParams base params (WebSocketCall.urlOf base params)
  webSocket_injective : Injective (WebSocketCall.urlOf base)
  http : ∀ rule request, rule.url = base → request.query ≠ [] →
    CarriesParams base request.query (HttpCall.urlOf rule request)
  http_injective : ∀ rule other request another, rule.url = base → other.url = base →
    HttpCall.urlOf rule request = HttpCall.urlOf other another → request.query = another.query
  /-- These are the addresses that are called. -/
  webSocket_called : ∀ rule request call, rule.url = base →
    WebSocketCall.ofRequest rule request = .ok call →
    call.url = WebSocketCall.urlOf base request.query
  http_called : ∀ rule request call, HttpCall.ofRequest rule request = .ok call →
    call.url = HttpCall.urlOf rule request

section

variable {base : String} {encode : String → String} {params : Params}

theorem carriesParams_address (hbase : IsPlainAddress base) (h : IsEncoding encode)
    (hne : params ≠ []) : CarriesParams base params (Query.address encode base params) where
  read := by
    have hempty : ¬ params.isEmpty = true := mt List.isEmpty_iff.1 hne
    exact ⟨Query.render encode params, if_neg hempty, Query.ofString_address hbase h hne,
      Query.parse_render h params⟩
  handed := by
    intro H E provider moment request provided htarget hroute hadmits hsize
    obtain ⟨received, haccept, hcalls⟩ :=
      Provider.exists_handlerCalls_of_admits hroute hadmits hsize
    have hread : Query.parse (request.target.query.getD "") = params := by
      rw [htarget]
      exact Query.ofAddress_address hbase h params
    refine ⟨received, hcalls, ?_⟩
    intro key
    rw [ProvidedService.query_of_accept haccept, hread, Dict.get?_ofList, Params.last?]

/-- Parameters survive the way from a caller to a handler, whatever texts they are
made of, and different parameters make different addresses. -/
theorem keepsParams_of_isPlainAddress (base : String) (hbase : IsPlainAddress base) :
    KeepsParams base where
  webSocket := by
    intro params hne
    exact carriesParams_address hbase Percent.isEncoding_encode hne
  webSocket_injective := (Query.ofAddress_address hbase Percent.isEncoding_encode).injective
  http := by
    rintro rule request rfl hne
    rw [HttpCall.urlOf_eq hbase]
    exact carriesParams_address hbase Percent.isEncoding_encodeForm hne
  http_injective := by
    intro rule other request another hrule hother hsame
    rw [HttpCall.urlOf_eq (hrule ▸ hbase), HttpCall.urlOf_eq (hother ▸ hbase), hrule, hother]
      at hsame
    exact (Query.ofAddress_address hbase Percent.isEncoding_encodeForm).injective hsame
  webSocket_called := by
    rintro rule request call rfl hcall
    exact (WebSocketCall.ofRequest_eq_ok hcall).2
  http_called := by
    intro rule request call hcall
    obtain ⟨-, -, hurl, -⟩ := HttpCall.ofRequest_eq_ok hcall
    exact hurl

/-- A repeated key, an empty one, separators, a plus sign and a letter of two bytes. -/
def awkwardParams : Params := [("a&b", "= +%"), ("", "ä"), ("a&b", "")]

theorem keepsParams_of_isPlainAddress_awkward :
    IsPlainAddress "http://10.0.0.2:8000/echo" ∧ KeepsParams "http://10.0.0.2:8000/echo" ∧
      WebSocketCall.urlOf "http://10.0.0.2:8000/echo" awkwardParams =
        "http://10.0.0.2:8000/echo?a%26b=%3D%20%2B%25&=%C3%A4&a%26b=" ∧
      Query.toForm awkwardParams = "a%26b=%3D+%2B%25&=%C3%A4&a%26b=" ∧
      awkwardParams.last? "a&b" = some "" := by
  have hplain : IsPlainAddress "http://10.0.0.2:8000/echo" := by decide
  refine ⟨hplain, keepsParams_of_isPlainAddress _ hplain, ?_, ?_, ?_⟩
  · decide +kernel
  · decide +kernel
  · decide

end

end LocalCloud
