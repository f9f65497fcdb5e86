import LocalCloud.Proofs.Client.Watching
import LocalCloud.Proofs.Codec.Pem
import LocalCloud.Proofs.Text.Trimming

/-!
# Wrapped keys and certificates

Certificates are wrapped as they are.  The key of the authorization system comes as a text
that may be in quotation marks and have white space anywhere, which is taken away before
the text is wrapped.  What is left has to be the base64 of some data, and there is only
one block with that data, so the spelling of the text leaves no trace in the block.
-/

namespace LocalCloud

open Text (IsBare isBlank)

namespace Certificate

/-- What is left of a text without the white space around it, then without the quotation
marks at both ends, and then without the white space inside. -/
inductive Cleans (text cleaned : String) : Prop where
  | intro {before opening inside closing after : List Char}
      (htext : text.toList = before ++ ((opening ++ (inside ++ closing)) ++ after))
      (hbefore : ∀ c ∈ before, isBlank c = true) (hafter : ∀ c ∈ after, isBlank c = true)
      (hbare : IsBare isBlank (opening ++ (inside ++ closing)))
      (hopening : ∀ c ∈ opening, c = '"') (hclosing : ∀ c ∈ closing, c = '"')
      (hinside : IsBare (· == '"') inside)
      (hcleaned : cleaned.toList = inside.filter fun c => !isBlank c) : Cleans text cleaned

/-- The characters that are not white space. -/
def visible (text : String) : String :=
  String.ofList (text.toList.filter fun c => !isBlank c)

/-- A text is the base64 of some data but for white space, in quotation marks or not. -/
inductive Spells (text : String) (der : Bytes) : Prop where
  | plain (h : visible text = Base64.encode der) : Spells text der
  | quoted (h : visible text = "\"" ++ Base64.encode der ++ "\"") : Spells text der

section Cleaning

variable {text cleaned : String} {der : Bytes} {chars : List Char}

theorem cleans_iff : Cleans text cleaned ↔ cleanBase64 text = cleaned := by
  rw [cleanBase64, ← String.toList_inj, String.toList_ofList]
  constructor
  · rintro ⟨htext, hbefore, hafter, hbare, hopening, hclosing, hinside, hcleaned⟩
    have hopening' := fun c hc => beq_iff_eq.2 (hopening c hc)
    have hclosing' := fun c hc => beq_iff_eq.2 (hclosing c hc)
    rw [htext, Text.stripChars_of_isBare hbefore hbare hafter,
      Text.stripChars_of_isBare hopening' hinside hclosing', hcleaned]
  · intro hcleaned
    obtain ⟨before, after, hbefore, hafter, hbare, htext⟩ :=
      Text.exists_eq_append_stripChars isBlank text.toList
    obtain ⟨opening, closing, hopening, hclosing, hinside, hquoted⟩ :=
      Text.exists_eq_append_stripChars (· == '"') (Text.stripChars isBlank text.toList)
    rw [hquoted] at htext hbare
    exact ⟨htext, hbefore, hafter, hbare, fun c hc => beq_iff_eq.1 (hopening c hc),
      fun c hc => beq_iff_eq.1 (hclosing c hc), hinside, hcleaned.symm⟩

theorem filter_isBlank_eq_nil (h : ∀ c ∈ chars, isBlank c = true) :
    chars.filter (fun c => !isBlank c) = [] := by
  rw [List.filter_eq_nil_iff]
  intro c hc
  simp [h c hc]

/-- Quotation marks are not white space, so there are none in what is base64 but for white
space. -/
theorem isBare_quote (h : chars.filter (fun c => !isBlank c) = (Base64.encode der).toList) :
    IsBare (· == '"') chars := by
  apply IsBare.of_forall
  rintro c hc
  rw [beq_eq_false_iff_ne]
  rintro rfl
  have hmem : '"' ∈ chars.filter fun c => !isBlank c := List.mem_filter.2 ⟨hc, by decide⟩
  rw [h] at hmem
  exact Base64.quote_not_mem_encode hmem

/-- A text between quotation marks keeps them at its ends when its white space is taken
away around it. -/
theorem exists_eq_quoted (hbare : IsBare isBlank chars) {inner : List Char}
    (h : chars.filter (fun c => !isBlank c) = '"' :: (inner ++ ['"'])) :
    ∃ inside, chars = '"' :: (inside ++ ['"']) ∧ inside.filter (fun c => !isBlank c) = inner := by
  cases chars with
  | nil => cases h
  | cons first rest =>
      have hfirst : isBlank first = false := hbare.head first rfl
      rw [List.filter_cons_of_pos (by simp [hfirst])] at h
      obtain ⟨rfl, hrest⟩ := List.cons.inj h
      rcases List.eq_nil_or_concat rest with rfl | ⟨inside, last, rfl⟩
      · have hlength := congrArg List.length hrest
        simp at hlength
      · rw [List.concat_eq_append] at hrest hbare ⊢
        have hlast : isBlank last = false := by
          apply hbare.last
          rw [← List.cons_append, List.getLast?_concat]
          rfl
        rw [List.filter_append, List.filter_cons_of_pos (by simp [hlast]), List.filter_nil] at hrest
        obtain ⟨hinside, hend⟩ := List.append_inj' hrest rfl
        obtain rfl : last = '"' := List.singleton_inj.1 hend
        exact ⟨inside, rfl, hinside⟩

theorem cleans_of_spells (h : Spells text der) : Cleans text (Base64.encode der) := by
  obtain ⟨before, after, hbefore, hafter, hbare, htext⟩ :=
    Text.exists_eq_append_stripChars isBlank text.toList
  have hvisible : (visible text).toList =
      (Text.stripChars isBlank text.toList).filter fun c => !isBlank c := by
    rw [visible, String.toList_ofList]
    conv_lhs => rw [htext, List.filter_append, List.filter_append, filter_isBlank_eq_nil hbefore,
      filter_isBlank_eq_nil hafter, List.nil_append, List.append_nil]
  obtain ⟨middle, hmiddle⟩ : ∃ middle, Text.stripChars isBlank text.toList = middle := ⟨_, rfl⟩
  rw [hmiddle] at hbare htext hvisible
  cases h with
  | plain hplain =>
      rw [hplain] at hvisible
      have hsame : middle = [] ++ (middle ++ []) := by rw [List.nil_append, List.append_nil]
      rw [hsame] at htext hbare
      exact ⟨htext, hbefore, hafter, hbare, List.forall_mem_nil _, List.forall_mem_nil _,
        isBare_quote hvisible.symm, hvisible⟩
  | quoted hquoted =>
      rw [hquoted, String.toList_append, String.toList_append] at hvisible
      obtain ⟨inside, rfl, hinside⟩ := exists_eq_quoted hbare hvisible.symm
      exact ⟨htext, hbefore, hafter, hbare, List.forall_mem_singleton.2 rfl,
        List.forall_mem_singleton.2 rfl, isBare_quote hinside, hinside.symm⟩

end Cleaning

section Wrapping

variable {text pem : String}

/-- A key is wrapped exactly if it is base64 after cleaning. -/
theorem publicKeyPem_eq_ok_iff : publicKeyPem text = .ok pem ↔
    ∃ der, Cleans text (Base64.encode der) ∧ Pem.IsBlock "PUBLIC KEY" der pem := by
  have hlabel : '\n' ∉ "PUBLIC KEY".toList := by decide
  simp only [cleans_iff, Pem.isBlock_iff hlabel]
  unfold publicKeyPem
  dsimp only
  split
  next der hread =>
    rw [Base64.decode?_eq_some_iff] at hread
    rw [hread]
    constructor
    · intro hpem
      exact ⟨der, rfl, (Except.ok.inj hpem).symm⟩
    · rintro ⟨other, hother, rfl⟩
      rw [hother]
  next hread =>
    constructor
    · exact nofun
    · rintro ⟨der, hder, -⟩
      rw [hder, Base64.decode?_encode] at hread
      cases hread

theorem publicKeyPem_eq_error (h : ∀ der, ¬ Cleans text (Base64.encode der)) :
    ∃ detail, publicKeyPem text = .error (.certificate detail) := by
  unfold publicKeyPem
  dsimp only
  split
  next der hread =>
    exact absurd (cleans_iff.2 (Base64.decode?_eq_some_iff.1 hread)) (h der)
  next => exact ⟨_, rfl⟩

end Wrapping

end Certificate

namespace Client

variable {C H E σ : Type} {network : Network (StateM σ) C} {client : Client C H E}
  {world later : σ} {reply : Reply}

/-- The question for the key is answered by a reply of success. -/
structure IsGivenKey (network : Network (StateM σ) C) (client : Client C H E) (world : σ)
    (reply : Reply) (later : σ) : Prop where
  asked : (client.call network (CoreService.publicKey.rule client.config) .empty).run world =
    (.ok reply, later)
  success : reply.isSuccess = true

theorem IsGivenKey.run_fetchKey (h : client.IsGivenKey network world reply later) :
    (client.fetchKey network).run world = (client.keepKey (.ok reply), later) := by
  rw [fetchKey_eq, StateT.run_map, h.asked]
  rfl

theorem accept_of_isSuccess (h : reply.isSuccess = true) (service : CoreService) :
    service.accept (.ok reply) = .ok reply := by
  rw [CoreService.accept, Except.bind, CoreService.checkStatus, if_pos h]
  rfl

theorem keepKey_of_ok {pem : String} (hsuccess : reply.isSuccess = true)
    (h : Certificate.publicKeyPem reply.text = .ok pem) :
    client.keepKey (.ok reply) = (.ok pem, { client with authorizationKey := some pem }) := by
  rw [keepKey, accept_of_isSuccess hsuccess, Except.bind, h]

theorem keepKey_of_error {failure : Error} (hsuccess : reply.isSuccess = true)
    (h : Certificate.publicKeyPem reply.text = .error failure) :
    client.keepKey (.ok reply) = (.error failure, client) := by
  rw [keepKey, accept_of_isSuccess hsuccess, Except.bind, h]

end Client

open Certificate (Cleans Spells pemOfDer publicKeyPem)

/-- Wrapping loses nothing: blocks hold the data they were made of in lines of fixed width.
Texts that are base64 of some data after cleaning give the block of that data and no other
text gives any, and with such a text the key of the authorization system is left as it was. -/
theorem Certificate.wrapsLosslessly :
    (∀ der, Pem.IsBlock "CERTIFICATE" der (pemOfDer der)) ∧
    (∀ text pem, publicKeyPem text = .ok pem ↔
      ∃ der, Cleans text (Base64.encode der) ∧ Pem.IsBlock "PUBLIC KEY" der pem) ∧
    (∀ der, ∃ pem, Pem.IsBlock "PUBLIC KEY" der pem ∧
      ∀ text, Spells text der → publicKeyPem text = .ok pem) ∧
    (∀ text, (∀ der, ¬ Cleans text (Base64.encode der)) →
      ∃ detail, publicKeyPem text = .error (.certificate detail)) ∧
    ∀ {C H E σ : Type} (network : Network (StateM σ) C) (client : Client C H E) (world : σ)
      (reply : Reply) (later : σ), client.IsGivenKey network world reply later →
      (∀ der pem, Cleans reply.text (Base64.encode der) → Pem.IsBlock "PUBLIC KEY" der pem →
        (client.fetchKey network).run world =
          ((.ok pem, { client with authorizationKey := some pem }), later)) ∧
      ((∀ der, ¬ Cleans reply.text (Base64.encode der)) → ∃ detail,
        (client.fetchKey network).run world = ((.error (.certificate detail), client), later)) := by
  refine ⟨?certificate, ?key, ?spelling, ?other, ?fetch⟩
  case certificate =>
    intro der
    exact (Pem.isBlock_iff (by decide)).2 rfl
  case key =>
    intro text pem
    exact publicKeyPem_eq_ok_iff
  case spelling =>
    intro der
    have hblock : Pem.IsBlock "PUBLIC KEY" der (Pem.render "PUBLIC KEY" (Base64.encode der)) :=
      (Pem.isBlock_iff (by decide)).2 rfl
    refine ⟨_, hblock, ?_⟩
    intro text htext
    exact publicKeyPem_eq_ok_iff.2 ⟨der, cleans_of_spells htext, hblock⟩
  case other =>
    intro text htext
    exact publicKeyPem_eq_error htext
  case fetch =>
    intro C H E σ network client world reply later hgiven
    constructor
    · intro der pem hclean hblock
      have hpem := publicKeyPem_eq_ok_iff.2 ⟨der, hclean, hblock⟩
      rw [hgiven.run_fetchKey, Client.keepKey_of_ok hgiven.success hpem]
    · intro hnone
      obtain ⟨detail, hdetail⟩ := publicKeyPem_eq_error hnone
      refine ⟨detail, ?_⟩
      rw [hgiven.run_fetchKey, Client.keepKey_of_error hgiven.success hdetail]

/-- A key of two bytes with white space inside and outside of its quotation marks, and then
a text that is no key. -/
theorem Certificate.wrapsLosslessly_quoted :
    let answers (calls : Nat) : Bytes :=
      if calls = 0 then Utf8.encode " \"AQ I=\t\"\n" else Utf8.encode "\"A\"I=\""
    let network : Network (StateM Nat) Unit := {
      http := fun _ => pure (.lost "unused")
      webSocket := fun _ => pure (.lost "unused")
      custom := fun _ _ _ => fun calls => (.ok ⟨200, "TEXT", answers calls⟩, calls + 1) }
    let client : Client Unit Unit Unit := {
      config := { secure := false }
      system := ⟨"arrowhead_client", "127.0.0.1", 7000, none⟩
      consumers := Consumers.builtIn.insert "http" (.custom ()) }
    let pem := "-----BEGIN PUBLIC KEY-----\nAQI=\n-----END PUBLIC KEY-----\n"
    let loaded := { client with authorizationKey := some pem }
    Spells " \"AQ I=\t\"\n" [1, 2] ∧ Pem.IsBlock "PUBLIC KEY" [1, 2] pem ∧
      (client.fetchKey network).run 0 = ((.ok pem, loaded), 1) ∧
      ∃ detail, (loaded.fetchKey network).run 1 = ((.error (.certificate detail), loaded), 2) := by
  intro answers network client pem loaded
  obtain ⟨-, -, -, -, hfetch⟩ := wrapsLosslessly
  have hspells : Spells " \"AQ I=\t\"\n" [1, 2] := .quoted (by decide +kernel)
  have hclean : Cleans " \"AQ I=\t\"\n" (Base64.encode [1, 2]) := cleans_of_spells hspells
  have hblock : Pem.IsBlock "PUBLIC KEY" [1, 2] pem :=
    (Pem.isBlock_iff (by decide)).2 (by decide +kernel)
  have hother (der : Bytes) : ¬ Cleans "\"A\"I=\"" (Base64.encode der) := by
    rw [cleans_iff, ← Base64.decode?_eq_some_iff]
    have hnone : Base64.decode? (cleanBase64 "\"A\"I=\"") = none := by decide +kernel
    rw [hnone]
    exact nofun
  have hgiven (current : Client Unit Unit Unit) (hsame : current.consumers = client.consumers)
      (calls : Nat) :
      current.IsGivenKey network calls ⟨200, "TEXT", answers calls⟩ (calls + 1) := by
    have hconsumer : current.consumers.get (CoreService.publicKey.rule current.config).protocol =
        .ok (.custom ()) := by
      rw [hsame, CoreService.protocol_rule]
      exact Consumers.get_insert_self (by decide +kernel)
    refine ⟨?_, rfl⟩
    rw [Client.call, hconsumer]
    rfl
  have hfirst : Utf8.decodeLossy (answers 0) = " \"AQ I=\t\"\n" := by decide +kernel
  have hsecond : Utf8.decodeLossy (answers 1) = "\"A\"I=\"" := by decide +kernel
  obtain ⟨hwrap, -⟩ := hfetch network client 0 _ 1 (hgiven client rfl 0)
  obtain ⟨-, hrefuse⟩ := hfetch network loaded 1 _ 2 (hgiven loaded rfl 1)
  rw [Reply.text, hfirst] at hwrap
  rw [Reply.text, hsecond] at hrefuse
  exact ⟨hspells, hblock, hwrap _ _ hclean hblock, hrefuse hother⟩

end LocalCloud
