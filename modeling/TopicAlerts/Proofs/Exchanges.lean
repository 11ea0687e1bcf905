import TopicAlerts.Api.Exchange
import TopicAlerts.Proofs.CompactDocuments
import TopicAlerts.Proofs.Utf8Texts

/-!
# What a client makes of responses

A client reads the JSON value that a response carries, as long as the value fits what is read
(`Api.Response.json_reply`). The response for an error carries the description of the error as a
string, and a string always fits: whatever characters stand in it, the client shows the description
as it is (`Api.Response.errorText_ofError`), and never the JSON text around it.
-/

namespace TopicAlerts

theorem Utf8.lossy_encode (text : String) : lossy (encode text) = text := by
  have hkept : ((text.toList.map some).map (·.getD '\uFFFD') : List Char) = text.toList := by
    simp [Function.comp_def]
  rw [lossy, units_encode, hkept, String.ofList_toList]

namespace Api.Response

/-- A client reads the value of a response that tells of success and can have a body. -/
theorem json_reply {status : Nat} {value : Json} (hsuccess : Web.isSuccess status = true)
    (hbody : Web.hasBody status = true) (hfits : Json.Fits Json.depthLimit value) :
    (ofJson status value).reply.json = .ok value := by
  have hread : Json.parse? value.compact = some value := (Json.parse?_compact_iff value).mpr hfits
  have hreply : (ofJson status value).reply = ⟨status, value.compact⟩ := by
    rw [reply, ofJson, if_pos hbody]
    rfl
  rw [hreply, Web.Reply.json, Web.Reply.success, if_pos hsuccess]
  dsimp only [bind, Except.bind]
  rw [hread]
  rfl

/-- The text of an object with the description of an error is read as the description. -/
theorem errorText_member (message : String) :
    Web.errorText (Json.compact (.obj [("error", .str message)])) = message := by
  have hfits : Json.Fits Json.depthLimit (.obj [("error", .str message)]) := by
    refine .obj (List.pairwise_singleton _ _) fun member hmember => ?_
    rw [List.mem_singleton.mp hmember]
    exact .str message
  rw [Web.errorText, (Json.parse?_compact_iff _).mpr hfits]
  rfl

theorem hasBody_status (error : StoreError) : Web.hasBody error.status = true := by
  cases error <;> rfl

theorem isSuccess_status (error : StoreError) : Web.isSuccess error.status = false := by
  cases error <;> rfl

/-- Whatever texts an error is about: the body of the response for it, as a text or sent as bytes,
is shown as the description of the error, and the client fails with that. -/
theorem errorText_ofError (error : StoreError) :
    Web.errorText (ofError error).text = error.message ∧
      Web.errorText (Utf8.lossy (Utf8.encode (ofError error).text)) = error.message ∧
      (ofError error).reply.success = .error (.refused error.status error.message) := by
  have htext : Web.errorText (ofError error).text = error.message := errorText_member error.message
  refine ⟨htext, ?_, ?_⟩
  · rw [Utf8.lossy_encode, htext]
  · have hreply : (ofError error).reply = ⟨error.status, (ofError error).text⟩ := by
      rw [reply]
      exact congrArg (Web.Reply.mk error.status) (if_pos (hasBody_status error))
    rw [hreply, Web.Reply.success, if_neg (by simp [isSuccess_status]), htext]

end Api.Response

end TopicAlerts
