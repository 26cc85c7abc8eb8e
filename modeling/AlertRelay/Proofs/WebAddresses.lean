import AlertRelay.Channel.Registry
import AlertRelay.Channel.Webhook
import AlertRelay.Proofs.UrlParts

/-!
# Addresses of the web

The check of a webhook accepts the addresses of the web and refuses other texts as faulty fields.
A text whose authority is not sound is neither accepted nor refused: there the reading of the URL
fails, and its failure is passed on.
-/

namespace AlertRelay
namespace Url

/-- The text names an authority that is not sound. -/
def IsUnsound (text : String) : Prop :=
  ∃ scheme authority, Names (counted text) scheme authority ∧ ¬ IsSound authority

/-- The text names an authority, which is not empty, under one of the two schemes of the web. -/
def IsWebAddress (text : String) : Prop :=
  ∃ scheme authority, Names (counted text) scheme authority ∧
    scheme ∈ ["http".toList, "https".toList] ∧ authority ≠ []

theorem authorityFault?_of_not_isUnsound {text : String} (sound : ¬ IsUnsound text)
    {scheme authority : List Char} (names : Names (counted text) scheme authority) :
    authorityFault? authority = none := by
  rw [authorityFault?_eq_none_iff]
  by_cases isSound : IsSound authority
  · exact isSound
  · exact (sound ⟨scheme, authority, names, isSound⟩).elim

end Url

namespace Webhook

open Url

variable {text : String}

/-- The failure of a text that is no address of the web. -/
def notAnAddress (text : String) : Failure :=
  .invalidField urlField "must be an http(s) URL" (.text text)

theorem validate_urlField (text : String) :
    validate urlField (some text) =
      match parse text with
      | .error fault => .error (.malformed fault.message)
      | .ok url =>
          if ["http", "https"].contains url.scheme && url.authority != "" then .ok ()
          else .error (notAnAddress text) :=
  rfl

theorem ofWeb_iff {scheme authority : List Char} :
    (["http", "https"].contains (String.ofList scheme) && String.ofList authority != "") = true ↔
      scheme ∈ ["http".toList, "https".toList] ∧ authority ≠ [] := by
  simp [← String.toList_inj]

theorem validate_of_isUnsound (unsound : IsUnsound text) :
    ∃ fault : UrlFault, validate urlField (some text) = .error (.malformed fault.message) := by
  obtain ⟨scheme, authority, names, notSound⟩ := unsound
  rw [← authorityFault?_eq_none_iff] at notSound
  obtain ⟨fault, faulty⟩ := Option.ne_none_iff_exists'.mp notSound
  refine ⟨fault, ?_⟩
  rw [validate_urlField, parse_of_names names, faulty]

theorem validate_of_isWebAddress (sound : ¬ IsUnsound text) (address : IsWebAddress text) :
    validate urlField (some text) = .ok () := by
  obtain ⟨scheme, authority, names, ofWeb⟩ := address
  rw [validate_urlField, parse_of_names names, authorityFault?_of_not_isUnsound sound names]
  exact if_pos (ofWeb_iff.mpr ofWeb)

theorem validate_of_not_isWebAddress (sound : ¬ IsUnsound text) (other : ¬ IsWebAddress text) :
    validate urlField (some text) = .error (notAnAddress text) := by
  rw [validate_urlField]
  by_cases named : ∃ scheme authority, Names (counted text) scheme authority
  · obtain ⟨scheme, authority, names⟩ := named
    rw [parse_of_names names, authorityFault?_of_not_isUnsound sound names]
    refine if_neg fun ofWeb => other ?_
    exact ⟨scheme, authority, names, ofWeb_iff.mp ofWeb⟩
  · obtain ⟨scheme, parsed⟩ := parse_of_nameless fun scheme authority names =>
      named ⟨scheme, authority, names⟩
    rw [parsed]
    exact if_neg (by simp)

/-- The check of a webhook's URL, directly or through a registry, accepts exactly the addresses of
the web and refuses all other texts as faulty fields, unless the text names an authority that is
not sound: then, and only then, the failure of the reading is passed on. -/
theorem accepts_or_refuses_unless_unsound {registry : Registry}
    (registered : registry.find? type = some channel) (text : String) :
    ∃ check, channel.validate = some check ∧
      registry.validate type urlField (some text) = check urlField (some text) ∧
      (check urlField (some text) = .ok () ↔ IsWebAddress text ∧ ¬ IsUnsound text) ∧
      (check urlField (some text) = .error (notAnAddress text) ↔
        ¬ IsWebAddress text ∧ ¬ IsUnsound text) ∧
      ((∃ fault : UrlFault, check urlField (some text) = .error (.malformed fault.message)) ↔
        IsUnsound text) := by
  have passed : registry.validate type urlField (some text) = validate urlField (some text) := by
    rw [Registry.validate, registered]
    rfl
  refine ⟨validate, rfl, passed, ?_⟩
  by_cases unsound : IsUnsound text
  · obtain ⟨fault, raised⟩ := validate_of_isUnsound unsound
    refine ⟨?_, ?_, iff_of_true ⟨fault, raised⟩ unsound⟩
    · simp [raised, unsound]
    · simp [raised, unsound, notAnAddress]
  · by_cases address : IsWebAddress text
    · simp [validate_of_isWebAddress unsound address, unsound, address]
    · simp [validate_of_not_isWebAddress unsound address, unsound, address, notAnAddress]

end Webhook

/-- The reading of a URL with an unclosed bracket fails, and the check of a webhook passes this
failure on instead of refusing the field. -/
theorem raised_for_unclosedBracket :
    Webhook.validate Webhook.urlField (some "https://[::1") =
        .error (.malformed "Invalid IPv6 URL") ∧
      ¬ ∀ text, Webhook.validate Webhook.urlField (some text) = .ok () ∨
        ∃ reason value, Webhook.validate Webhook.urlField (some text) =
          .error (.invalidField Webhook.urlField reason value) := by
  have raised : Webhook.validate Webhook.urlField (some "https://[::1") =
      .error (.malformed "Invalid IPv6 URL") := rfl
  refine ⟨raised, fun contained => ?_⟩
  rcases contained "https://[::1" with accepted | ⟨reason, value, refused⟩
  · rw [raised] at accepted
    cases accepted
  · rw [raised] at refused
    cases refused

theorem validate_bracketed :
    Webhook.validate Webhook.urlField (some "https://[::1]:8080/in") = .ok () := by
  have names : Url.Names (Url.counted "https://[::1]:8080/in") "https".toList "[::1]:8080".toList :=
    Url.names_iff.mpr ⟨_, rfl, rfl⟩
  have ascii : ∀ c ∈ "[::1]:8080".toList, decide (c.toNat < 0xa0) = true :=
    List.all_eq_true.mp rfl
  have sound : Url.IsSound "[::1]:8080".toList :=
    ⟨Url.bracketFault?_eq_none_iff.mp rfl,
      fun c member => Url.isDisguised_of_lt (of_decide_eq_true (ascii c member))⟩
  rw [Webhook.validate_urlField, Url.parse_of_names names,
    Url.authorityFault?_eq_none_iff.mpr sound]
  rfl

/-- The unclosed bracket makes the authority unsound; closed and before a port it is accepted. -/
theorem unsound_with_unclosedBracket :
    (Registry.mk [Webhook.channel]).find? Webhook.type = some Webhook.channel ∧
      Url.IsUnsound "https://[::1" ∧
      Url.IsWebAddress "https://[::1]:8080/in" ∧ ¬ Url.IsUnsound "https://[::1]:8080/in" := by
  have registered : (Registry.mk [Webhook.channel]).find? Webhook.type = some Webhook.channel :=
    rfl
  obtain ⟨_, shared, _, _, _, raises⟩ :=
    Webhook.accepts_or_refuses_unless_unsound registered "https://[::1"
  cases shared
  obtain ⟨_, shared, _, accepts, _, _⟩ :=
    Webhook.accepts_or_refuses_unless_unsound registered "https://[::1]:8080/in"
  cases shared
  exact ⟨registered, raises.mp ⟨.misplacedBracket, rfl⟩, accepts.mp validate_bracketed⟩

end AlertRelay
