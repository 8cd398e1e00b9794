import KizunaLink.Codec.RoundTrip
import KizunaLink.Codec.Truncation

/-!
# Re-encoding an accepted token

`encode_track` writes version three only, while `decode_track` accepts three
versions and fills in what the older ones lack.  What it returns is never too long
for a field of the current format, whichever version it was read from, so writing
it again loses nothing.
-/

set_option autoImplicit false

namespace KizunaLink.Codec

open KizunaLink.Lib

theorem readMandatory_ok {payload rest : Bytes} {info : TrackInfo}
    (success : readMandatory payload = .ok (info, rest)) :
    FieldsFit info ∧ info.isSeekable = !info.isStream := by
  obtain ⟨⟨envelope, afterHeader⟩, _, success⟩ := bind_ok success
  obtain ⟨⟨version, stream⟩, _, success⟩ := bind_ok success
  obtain ⟨-, success⟩ := guard_ok success
  exact readInfo_ok success

theorem decodeTrack_ok (json : SerdeJson) {token : String} {track : Track}
    (accepted : decodeTrack json token = .ok track) :
    FieldsFit track.info ∧ track.info.isSeekable = !track.info.isStream := by
  by_cases empty : token = ""
  · rw [decodeTrack, if_pos empty] at accepted
    cases accepted
  · cases decoded : Base64.decode token with
    | none =>
      rw [decodeTrack, if_neg empty, decoded] at accepted
      cases accepted
    | some payload =>
      rw [decodeTrack_eq json empty decoded] at accepted
      obtain ⟨-, accepted⟩ := guard_ok accepted
      cases read : readMandatory payload with
      | error problem =>
        rw [read] at accepted
        cases accepted
      | ok mandatory =>
        rw [read] at accepted
        cases accepted
        exact readMandatory_ok read

/-- For every accepted token, of any version and with any bytes behind its fields: encoding
the track again succeeds, and the new token decodes to the same track, null user data
becoming the empty object. -/
theorem reencoded_token_decodes (json : SerdeJson) (token : String) (track : Track)
    (accepted : decodeTrack json token = .ok track)
    (printed : json.fromStr (json.toString track.userData) = some track.userData)
    (fits : Written track.userData → FitsU16 (json.toString track.userData)) :
    ∃ migrated again, encodeTrack json track.info track.userData = .ok migrated ∧
      decodeTrack json migrated = .ok again ∧ again.info = track.info ∧
      again.userData = decodedUserData track.userData := by
  obtain ⟨fieldsFit, seekable⟩ := decodeTrack_ok json accepted
  have roundTrips : RoundTrips json track.info track.userData :=
    (roundTrips_iff_userData json track.info track.userData fieldsFit).mpr
      (readUserData_writeUserData json track.userData printed fits)
  obtain ⟨again, decoded, sameInfo, sameData⟩ := roundTrips _ rfl
  refine ⟨_, again, rfl, decoded, ?_, sameData⟩
  rw [sameInfo, ← seekable]

/-- A payload of version one with empty texts, which has no version byte and no URIs,
followed by user data and three stray bytes. -/
def oldPayload : Bytes :=
  List.replicate 29 0 ++ (writeString "\x7b\"a\":1\x7d" ++ [1, 2, 3])

theorem rest_of_mandatory {payload rest : Bytes} {info : TrackInfo}
    (read : readMandatory payload = .ok (info, rest)) :
    rest = payload.drop (mandatoryLength payload) := by
  have length : mandatoryLength payload = payload.length - rest.length := by
    rw [mandatoryLength, read]
  obtain ⟨used, rfl, _⟩ := readMandatory_exact payload info rest read
  rw [length, List.length_append, Nat.add_sub_cancel, List.drop_left]

theorem readUserData_oldPayload :
    readUserData sampleJson (oldPayload.drop 29) = .object [("a", .number (.posInt 1))] := by
  have text := readString_writeString "\x7b\"a\":1\x7d" [1, 2, 3] (by decide)
  have rest : oldPayload.drop 29 = writeString "\x7b\"a\":1\x7d" ++ [1, 2, 3] :=
    List.drop_left' (by decide)
  rw [rest, readUserData, text]
  rfl

theorem old_token_reencoded :
    ∃ track migrated again,
      decodeTrack sampleJson (Base64.encode oldPayload) = .ok track ∧
        encodeTrack sampleJson track.info track.userData = .ok migrated ∧
        decodeTrack sampleJson migrated = .ok again ∧ again.info = track.info ∧
        again.userData = .object [("a", .number (.posInt 1))] := by
  have length : mandatoryLength oldPayload = 29 := by decide
  have short : FitsU16 (sampleJson.toString (.object [("a", .number (.posInt 1))])) := by decide
  cases read : readMandatory oldPayload with
  | error problem => simp [mandatoryLength, read] at length
  | ok mandatory =>
    obtain ⟨info, rest⟩ := mandatory
    have restIs := rest_of_mandatory read
    rw [length] at restIs
    subst restIs
    have accepted : decodeTrack sampleJson (Base64.encode oldPayload) =
        .ok (trackOf sampleJson (Base64.encode oldPayload) (info, oldPayload.drop 29)) := by
      rw [decodeTrack_eq sampleJson (Base64.encode_ne_empty _ (by decide))
        (Base64.decode_encode oldPayload), if_neg (by decide), read]
      rfl
    obtain ⟨migrated, again, encoded, decoded, sameInfo, sameData⟩ :=
      reencoded_token_decodes sampleJson _ _ accepted
        (by rw [trackOf, readUserData_oldPayload]; rfl)
        (by rw [trackOf, readUserData_oldPayload]; exact fun _ => short)
    refine ⟨_, migrated, again, accepted, encoded, decoded, sameInfo, ?_⟩
    rw [sameData, trackOf, readUserData_oldPayload]
    rfl

end KizunaLink.Codec
