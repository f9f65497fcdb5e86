import LocalCloud.Orchestration.Rule
import LocalCloud.Proofs.Text.Segments
import LocalCloud.Proofs.Text.Trimming

/-!
# Tokens in bearer headers

A header is trimmed as a whole, cut at its first space, and what stands behind the space
is trimmed again.  The scheme has no white space, so in a header that was written for a
token the cut is made behind the scheme, and the white space around the token is all
that gets lost.  Of a token that is nothing but white space no space is left to cut at.
-/

namespace LocalCloud

namespace Bearer

open Text (HasContent IsBare isBlank stripChars)

/-- A header value without the white space around it is the scheme, one space and a rest
that is not all white space, and a text is that rest without the white space around it. -/
inductive Carries (value text : String) : Prop where
  | intro {rest : String} (htrim : Text.trim value = "Bearer" ++ " " ++ rest)
      (hcontent : HasContent rest) (htext : text = Text.trim rest) : Carries value text

/-- A header is refused as an invalid token. -/
def Refuses (header : Option String) : Prop :=
  ∃ detail, token header = .error (.invalidToken detail)

section Reading

variable {value text rest : String} {header : Option String}

theorem toList_header (text : String) :
    (Bearer.header text).toList = scheme.toList ++ ' ' :: text.toList := by
  rw [Bearer.header, String.toList_append, String.toList_append, List.append_assoc]
  rfl

theorem trim_eq_header_iff :
    Text.trim value = "Bearer" ++ " " ++ rest ↔
      stripChars isBlank value.toList = scheme.toList ++ ' ' :: rest.toList := by
  rw [← Text.toList_trim, ← toList_header, String.toList_inj]
  rfl

theorem stripChars_ne_nil_iff : stripChars isBlank text.toList ≠ [] ↔ HasContent text := by
  rw [← Text.toList_trim, Ne, String.toList_eq_nil_iff, Text.trim_eq_empty_iff, not_not]

/-- A header is read exactly as the text that it carries. -/
theorem token_eq_ok_iff : token (some value) = .ok text ↔ Carries value text := by
  constructor
  · intro htoken
    unfold token at htoken
    dsimp only at htoken
    split at htoken
    next => cases htoken
    next found rest hfound =>
      obtain ⟨hchars, -⟩ := Text.splitOnce?_eq_some_iff.1 hfound
      obtain ⟨rest, rfl⟩ : ∃ text : String, rest = text.toList := ⟨_, String.toList_ofList.symm⟩
      split at htoken
      next => cases htoken
      next hscheme =>
        split at htoken
        next => cases htoken
        next hfilled =>
          rw [not_not.1 hscheme] at hchars
          have hne : stripChars isBlank rest.toList ≠ [] := mt List.isEmpty_iff.2 hfilled
          exact ⟨trim_eq_header_iff.2 hchars, stripChars_ne_nil_iff.1 hne,
            (Except.ok.inj htoken).symm⟩
  · rintro ⟨htrim, hcontent, rfl⟩
    have hspace : ' ' ∉ scheme.toList := by decide
    have hfilled := mt List.isEmpty_iff.1 (stripChars_ne_nil_iff.2 hcontent)
    unfold token
    dsimp only
    rw [trim_eq_header_iff.1 htrim, Text.splitOnce?_append_cons hspace]
    dsimp only
    rw [if_neg (not_not.2 rfl), if_neg hfilled]
    rfl

/-- A header that carries no token fails as an invalid token. -/
theorem invalidToken_of_token_eq_error {failure : Error} (h : token header = .error failure) :
    ∃ detail, failure = .invalidToken detail := by
  unfold token at h
  split at h
  · cases h
    exact ⟨_, rfl⟩
  · split at h
    · cases h
      exact ⟨_, rfl⟩
    · split at h
      · cases h
        exact ⟨_, rfl⟩
      · dsimp only at h
        split at h
        · cases h
          exact ⟨_, rfl⟩
        · cases h

theorem refuses_of_forall_not_carries (h : ∀ value ∈ header, ∀ text, ¬ Carries value text) :
    Refuses header := by
  cases hread : token header with
  | error failure =>
      obtain ⟨detail, rfl⟩ := invalidToken_of_token_eq_error hread
      exact ⟨detail, hread⟩
  | ok text =>
      cases header with
      | none => cases hread
      | some value => exact absurd (token_eq_ok_iff.1 hread) (h value rfl text)

end Reading

section Writing

variable {text : String}

/-- White space behind a token is white space behind the header and is gone before the
cut, white space in front of the token is gone behind it. -/
theorem carries_header (h : HasContent text) : Carries (header text) (Text.trim text) := by
  obtain ⟨before, after, hbefore, hafter, hbare, hchars⟩ :=
    Text.exists_eq_append_stripChars isBlank text.toList
  have hne := stripChars_ne_nil_iff.2 h
  rw [← Text.toList_trim] at hchars hbare hne
  have hfront : ∀ c ∈ (scheme.toList ++ ' ' :: before).head?, isBlank c = false := by
    rintro c ⟨⟩
    rfl
  have hwhole : IsBare isBlank ((scheme.toList ++ ' ' :: before) ++ (Text.trim text).toList) :=
    .of_append (by simp) hne hfront hbare.last
  have hheader : stripChars isBlank (header text).toList =
      scheme.toList ++ ' ' :: (before ++ (Text.trim text).toList) := by
    have hleft := Text.stripChars_of_isBare (List.forall_mem_nil _) hwhole hafter
    rw [toList_header, hchars]
    simpa using hleft
  have hrest : stripChars isBlank (before ++ (Text.trim text).toList) = (Text.trim text).toList := by
    have hleft := Text.stripChars_of_isBare hbefore hbare (List.forall_mem_nil _)
    rwa [List.append_nil] at hleft
  rw [← String.toList_ofList (l := before ++ (Text.trim text).toList)] at hheader hrest
  refine ⟨trim_eq_header_iff.2 hheader, stripChars_ne_nil_iff.1 ?_, ?_⟩
  · rw [hrest]
    exact hne
  · rw [← String.toList_inj, Text.toList_trim (String.ofList _), hrest]

/-- Of a token that is all white space the header keeps the scheme only. -/
theorem not_carries_header (h : ¬ HasContent text) (other : String) :
    ¬ Carries (header text) other := by
  rintro ⟨htrim, -, -⟩
  have hblank : ∀ c ∈ ' ' :: text.toList, isBlank c = true := by
    rw [← stripChars_ne_nil_iff, not_not, Text.stripChars_eq_nil_iff] at h
    exact List.forall_mem_cons.2 ⟨rfl, h⟩
  have hbare : IsBare isBlank scheme.toList := by
    constructor
    · rintro c ⟨⟩
      rfl
    · rintro c ⟨⟩
      rfl
  have hheader : stripChars isBlank (header text).toList = scheme.toList := by
    have hleft := Text.stripChars_of_isBare (List.forall_mem_nil _) hbare hblank
    rwa [List.nil_append, ← toList_header] at hleft
  rw [trim_eq_header_iff, hheader] at htrim
  have hlength := congrArg List.length htrim
  simp at hlength

/-- What is put behind the scheme is found there, when it is free of white space. -/
theorem token_header (hne : text ≠ "") (hblank : ∀ c ∈ text.toList, isBlank c = false) :
    token (some (header text)) = .ok text := by
  have htrim := Text.trim_of_forall_not_isBlank hblank
  rw [← htrim] at hne
  have hcarries := carries_header (not_not.1 (mt Text.trim_eq_empty_iff.2 hne))
  rw [htrim] at hcarries
  exact token_eq_ok_iff.2 hcarries

end Writing

end Bearer

namespace OrchestrationRule

theorem token_ofParts_ne_empty {service : Service} {provider : System} {method : String}
    {given : Option String} {text : String}
    (h : (ofParts service provider method given).token = some text) : text ≠ "" := by
  have hfilled := (Option.filter_eq_some_iff.1 h).2
  simpa using hfilled

/-- What a provider reads from the header of a call through a rule. -/
structure PresentsReadably (rule : OrchestrationRule) (text : String) : Prop where
  recovered : Text.trim text ≠ "" → Bearer.token rule.bearerHeader = .ok (Text.trim text)
  unchanged : text ≠ "" → Text.trim text = text → Bearer.token rule.bearerHeader = .ok text
  refused : Text.trim text = "" → Bearer.Refuses rule.bearerHeader

end OrchestrationRule

/-- Consumers write what providers read: the token of a rule comes back without the white
space around it.  Whatever else a header says, it is read exactly as what it carries. -/
theorem Bearer.recoversTokens :
    (∀ (rule : OrchestrationRule) (text : String), rule.token = some text →
      rule.PresentsReadably text) ∧
    (∀ service provider method given text,
      (OrchestrationRule.ofParts service provider method given).token = some text → text ≠ "") ∧
    (∀ value text, token (some value) = .ok text ↔ Carries value text) ∧
    ∀ header, (∀ value ∈ header, ∀ text, ¬ Carries value text) → Refuses header := by
  refine ⟨?written, ?filled, ?read, ?other⟩
  case written =>
    intro rule text htoken
    have hheader : rule.bearerHeader = some (header text) := by
      rw [OrchestrationRule.bearerHeader, htoken, Option.map_some]
    have hrecovered : Text.trim text ≠ "" → token rule.bearerHeader = .ok (Text.trim text) := by
      intro hne
      rw [hheader]
      exact token_eq_ok_iff.2 (carries_header (not_not.1 (mt Text.trim_eq_empty_iff.2 hne)))
    refine ⟨hrecovered, ?unchanged, ?refused⟩
    case unchanged =>
      intro hne htrim
      rw [← htrim] at hne
      rw [hrecovered hne, htrim]
    case refused =>
      intro hblank
      apply refuses_of_forall_not_carries
      rintro value hvalue other
      obtain rfl := Option.some.inj (hheader.symm.trans hvalue)
      exact not_carries_header (Text.trim_eq_empty_iff.1 hblank) other
  case filled =>
    intro service provider method given text
    exact OrchestrationRule.token_ofParts_ne_empty
  case read =>
    intro value text
    exact token_eq_ok_iff
  case other =>
    intro header hheader
    exact refuses_of_forall_not_carries hheader

/-- A token with a tab, a space inside and a no-break space behind. -/
theorem Bearer.recoversTokens_spaced :
    let service : Service := ⟨"echo", "echo", ⟨"HTTP", "SECURE", "JSON"⟩, .token, ∅, none⟩
    let rule := OrchestrationRule.ofParts service ⟨"provider", "10.0.0.2", 8000, none⟩ "GET"
      (some "\tto ken\u00a0")
    rule.token = some "\tto ken\u00a0" ∧ rule.PresentsReadably "\tto ken\u00a0" ∧
      Text.trim "\tto ken\u00a0" = "to ken" ∧ token rule.bearerHeader = .ok "to ken" := by
  intro service rule
  obtain ⟨hwritten, -⟩ := recoversTokens
  have htoken : rule.token = some "\tto ken\u00a0" := by decide +kernel
  have htrim : Text.trim "\tto ken\u00a0" = "to ken" := by decide +kernel
  have hpresents := hwritten rule _ htoken
  have hrecovered := hpresents.recovered (by decide +kernel)
  rw [htrim] at hrecovered
  exact ⟨htoken, hpresents, htrim, hrecovered⟩

end LocalCloud
