import Quarry.Proofs.Customer.Json

/-!
# Events of customers and their payloads

The payload of an event is an object with one member, which is named after the alternative. Its
value is an object with the parts of the event, under the keys `at` and another one, and from these
the event is read again.
-/

namespace Quarry.CustomerEvent

open Json

/-- What is kept of an alternative `tag` with a part under `key` and a moment. -/
theorem sorted_variant (tag key : String) (part moment : Json) :
    (Json.object [(tag, .object [(key, part), ("at", moment)])]).sorted =
      .object [(tag, .object (sortMembers (sortedMembers [(key, part), ("at", moment)])))] := by
  rw [Json.sorted, sortedMembers, sortedMembers, Json.sorted]
  rfl

/-- The two parts of an alternative are found under `key` and `at`. -/
theorem member?_parts {key : String} (hkey : key ≠ "at") (part moment : Json) :
    member? key (sortMembers (sortedMembers [(key, part), ("at", moment)])) = some part.sorted ∧
      member? "at" (sortMembers (sortedMembers [(key, part), ("at", moment)])) =
        some moment.sorted := by
  have hkeys : ([(key, part), ("at", moment)].map Prod.fst).Nodup := by
    simpa using hkey
  rw [member?_kept key hkeys, member?_kept "at" hkeys]
  rw [member?, member?, List.lookup_cons_self, List.lookup_cons, beq_false_of_ne hkey.symm,
    List.lookup_cons_self]
  exact ⟨rfl, rfl⟩

theorem decodeTimestamp_momentJson {t : Timestamp} (h : Timestamp.isDayInRange t.day = true) :
    decodeTimestamp (momentJson t).sorted = .ok t := by
  show decodeTimestamp (.string t.renderZulu) = .ok t
  rw [decodeTimestamp, Timestamp.readLenient_renderZulu h]
  rfl

/-- An `event` is read from its `payload` if its moment is on a day of the calendar. -/
theorem decode_of_store {event : CustomerEvent} {payload : Json}
    (h : JsonCodec.store event = .ok payload)
    (hmoment : Timestamp.isDayInRange event.moment.day = true) :
    JsonCodec.decode payload = .ok event := by
  have hat := decodeTimestamp_momentJson hmoment
  obtain ⟨encoded, hencoded, rfl⟩ := map_eq_ok_iff.mp h
  show decode encoded.sorted = .ok event
  cases event with
  | registered firstName t =>
    cases hencoded
    obtain ⟨hname, htime⟩ := member?_parts (show "first_name" ≠ "at" by decide)
      (.string firstName) (momentJson t)
    rw [sorted_variant]
    show decodeRegistered _ = _
    rw [decodeRegistered, decodeMember_of_ok htime hat,
      decodeMember_of_ok hname (decodeString_string _)]
    rfl
  | relocated zipCode t =>
    cases hencoded
    obtain ⟨hzip, htime⟩ := member?_parts (show "zip_code" ≠ "at" by decide)
      (.ofOption .string zipCode) (momentJson t)
    have hread : decodeOption decodeString (Json.ofOption .string zipCode).sorted =
        .ok zipCode := by
      rw [sorted_ofOption]
      exact decodeOption_ofOption (fun _ => rfl) fun _ _ => rfl
    rw [sorted_variant]
    show decodeRelocated _ = _
    rw [decodeRelocated, decodeMember_of_ok htime hat, decodeMember_of_ok hzip hread]
    rfl
  | noted note t =>
    obtain ⟨text, htext, rfl⟩ := map_eq_ok_iff.mp hencoded
    obtain rfl := Note.eq_string_of_encode htext
    obtain ⟨hnote, htime⟩ := member?_parts (show "note" ≠ "at" by decide)
      (.string note) (momentJson t)
    rw [sorted_variant]
    show decodeNoted _ = _
    rw [decodeNoted, decodeMember_of_ok htime hat,
      decodeMember_of_ok hnote (decodeString_string _)]
    rfl

end Quarry.CustomerEvent
