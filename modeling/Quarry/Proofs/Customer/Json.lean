import Quarry.Customer.Json
import Quarry.Proofs.Except
import Quarry.Proofs.Json.Decode
import Quarry.Proofs.Json.Members
import Quarry.Proofs.Timestamp.Rfc3339
import Quarry.Proofs.Uuid
import Quarry.Record

/-!
# Customers and their documents

The document of a customer has each part of the customer under its key (`Customer.IsKeptAs`). From
these parts the customer is read again (`Customer.decode_kept`), unless its score is no finite
number: such a score is kept as null, which is no score. A field of the document is the field of the
customer as far as JSON can tell it: an identifier and a moment are texts there
(`Customer.field?_document`).
-/

namespace Quarry

theorem Note.eq_string_of_encode {note : String} {j : Json} (h : Note.encode note = .ok j) :
    j = .string note := by
  unfold Note.encode at h
  split at h
  · cases h
  · cases h
    rfl

namespace Customer

open Json

/-! ## Documents -/

/-- The `members` of an object hold the customer `c`. -/
structure IsKeptAs (c : Customer) (members : List (String × Json)) : Prop where
  id : Json.member? "id" members = some (.string c.id.render)
  firstName : Json.member? "first_name" members = some (.string c.state.firstName)
  zipCode : Json.member? "zip_code" members = some (.ofOption .string c.state.zipCode)
  isVip : Json.member? "is_vip" members = some (.bool c.state.isVip)
  age : Json.member? "age" members = some (.ofInt64 c.state.age)
  score : Json.member? "score" members = some (.ofBinary64 c.state.score)
  tags : Json.member? "tags" members = some (.array (c.state.tags.map .string))
  joinedAt : Json.member? "joined_at" members =
    some (.ofOption (fun t => .string t.renderZulu) c.state.joinedAt)
  address : Json.member? "address" members =
    some (.ofOption (fun a => (Address.encode a).sorted) c.state.address)
  note : Json.member? "note" members = some (.string c.state.note)
  version : Json.member? "version" members = some (.ofUInt64 c.version)

/-- What is kept of `c` is an object whose members hold it. -/
theorem isKeptAs_of_store {c : Customer} {body : Json} (h : JsonCodec.store c = .ok body) :
    ∃ members, body = .object members ∧ c.IsKeptAs members := by
  obtain ⟨encoded, hencoded, rfl⟩ := map_eq_ok_iff.mp h
  obtain ⟨note, hnote, rfl⟩ := map_eq_ok_iff.mp hencoded
  obtain rfl := Note.eq_string_of_encode hnote
  have hkeys : (["id", "first_name", "zip_code", "is_vip", "age", "score", "tags", "joined_at",
      "address", "note", "version"] : List String).Nodup := by decide
  refine ⟨_, rfl, ?_⟩
  constructor
  all_goals
    refine (Json.member?_kept _ (show (List.map Prod.fst _).Nodup from ?_)).trans ?_
    · exact hkeys
  · rfl
  · rfl
  · exact congrArg some (sorted_ofOption _ _)
  · rfl
  · rfl
  · exact congrArg some (sorted_ofBinary64 _)
  · exact congrArg (some ∘ Json.array) (sortedItems_map_string _)
  · exact congrArg some (sorted_ofOption _ _)
  · exact congrArg some (sorted_ofOption _ _)
  · rfl
  · rfl

/-! ## Reading -/

theorem decode_address (a : Address) : Address.decode (Address.encode a).sorted = .ok a := by
  have hkeys : (["city", "zip"] : List String).Nodup := by decide
  rw [Address.encode, Json.sorted, Address.decode]
  generalize hmembers : Json.sortMembers (Json.sortedMembers _) = members
  have hcity : Json.member? "city" members = some (.string a.city) := by
    rw [← hmembers, Json.member?_kept]
    · rfl
    · exact hkeys
  have hzip : Json.member? "zip" members = some (.ofOption .string a.zip) := by
    rw [← hmembers, Json.member?_kept]
    · exact congrArg some (sorted_ofOption _ _)
    · exact hkeys
  rw [Address.ofMembers, decodeMember_of_ok hcity (decodeString_string _),
    decodeMember_of_ok hzip (decodeOption_ofOption (fun _ => rfl) fun _ _ => rfl)]
  rfl

/-- The customer `c` is read from its document as it was written, but without its pending events. -/
theorem decode_kept {c : Customer} {members : List (String × Json)} (h : c.IsKeptAs members)
    (hscore : c.state.score.isFinite = true)
    (hjoined : ∀ t, c.state.joinedAt = some t → Timestamp.isDayInRange t.day = true) :
    Customer.decode (.object members) = .ok ⟨c.id, c.version, c.state, .empty⟩ := by
  have hid : EntityId.decode (.string c.id.render) = .ok c.id := by
    rw [EntityId.decode, EntityId.render, decodeUuid_render]
    rfl
  have hjoinedAt : Json.decodeOption Json.decodeTimestamp
      (.ofOption (fun t => .string t.renderZulu) c.state.joinedAt) = .ok c.state.joinedAt := by
    refine decodeOption_ofOption (fun _ => rfl) fun t ht => ?_
    rw [Json.decodeTimestamp, Timestamp.readLenient_renderZulu (hjoined t ht)]
    rfl
  have haddress : Json.decodeOption Address.decode
      (.ofOption (fun a => (Address.encode a).sorted) c.state.address) = .ok c.state.address :=
    decodeOption_ofOption (fun _ => rfl) fun a _ => decode_address a
  have hzipCode : Json.decodeOption Json.decodeString (.ofOption .string c.state.zipCode) =
      .ok c.state.zipCode :=
    decodeOption_ofOption (fun _ => rfl) fun _ _ => rfl
  rw [Customer.decode, Customer.ofMembers, decodeMember_of_ok h.address haddress,
    decodeMember_of_ok h.age (decodeInt64_ofInt64 _),
    decodeMember_of_ok h.firstName (decodeString_string _),
    decodeMember_of_ok h.id hid, decodeMember_of_ok h.isVip (decodeBool_bool _),
    decodeMember_of_ok h.joinedAt hjoinedAt, decodeMember_of_ok h.note (decodeString_string _),
    decodeMember_of_ok h.score (decodeBinary64_ofBinary64 hscore),
    decodeMember_of_ok h.tags (decodeList_strings _),
    decodeMember_of_ok h.version (decodeUInt64_ofUInt64 _),
    decodeMember_of_ok h.zipCode hzipCode]
  rfl

/-- A score that is no finite number does not come back: the document cannot be read. -/
theorem decode_kept_of_not_isFinite {c : Customer} {members : List (String × Json)}
    (h : c.IsKeptAs members) (hscore : c.state.score.isFinite = false) :
    ∃ e, Customer.decode (.object members) = .error e := by
  have hnull : Json.ofBinary64 c.state.score = .null := by
    rw [Json.ofBinary64, dif_neg (by rw [hscore]; decide)]
  cases hread : Customer.decode (.object members) with
  | error e => exact ⟨e, rfl⟩
  | ok read =>
    simp only [Customer.decode, Customer.ofMembers, bind_eq_ok_iff] at hread
    obtain ⟨_, _, _, _, _, _, _, _, _, _, _, _, _, _, score, hread, _⟩ := hread
    rw [Json.decodeMember, h.score, hnull] at hread
    cases hread

/-- Whatever else is `read`, the identifier comes back. -/
theorem id_of_decode_kept {c read : Customer} {members : List (String × Json)}
    (h : c.IsKeptAs members) (hread : Customer.decode (.object members) = .ok read) :
    read.id = c.id := by
  have hid : EntityId.decode (.string c.id.render) = .ok c.id := by
    rw [EntityId.decode, EntityId.render, decodeUuid_render]
    rfl
  simp only [Customer.decode, Customer.ofMembers, decodeMember_of_ok h.id hid,
    bind_eq_ok_iff] at hread
  -- The members are read in the order of their keys, the identifier among them as the fourth.
  obtain ⟨_, -, _, -, _, -, found, hfound, _, -, _, -, _, -, _, -, _, -, _, -, _, -, id, hrequired,
    _, -, _, -, _, -, _, -, _, -, _, -, _, -, hread⟩ := hread
  cases hfound
  cases hrequired
  cases hread
  rfl

/-- Whoever is `read` joined on a day of the calendar. -/
theorem isDayInRange_of_decode {j : Json} {read : Customer} (h : Customer.decode j = .ok read)
    {t : Timestamp} (ht : read.state.joinedAt = some t) : Timestamp.isDayInRange t.day = true := by
  cases j with
  | object members =>
    simp only [Customer.decode, Customer.ofMembers, bind_eq_ok_iff] at h
    obtain ⟨_, -, _, -, _, -, _, -, _, -, found, hfound, _, -, _, -, _, -, _, -, _, -, _, -, _, -,
      _, -, _, -, _, -, _, -, _, -, _, -, h⟩ := h
    cases h
    have hsome : found = some (some t) := by
      cases found with
      | none => cases ht
      | some moment => exact congrArg some ht
    subst hsome
    obtain ⟨moment, -, hmoment⟩ := Json.decodeMember_eq_some_iff.mp hfound
    have hread := Json.decode_of_decodeOption hmoment
    unfold Json.decodeTimestamp at hread
    split at hread
    · exact Timestamp.isDayInRange_of_readLenient (mapError_eq_ok_iff.mp hread)
    · cases hread
  | _ => cases h

/-- Events are never read from `j`. -/
theorem events_of_decode {j : Json} {read : Customer} (h : Customer.decode j = .ok read) :
    read.events = .empty := by
  cases j with
  | object members =>
    simp only [Customer.decode, Customer.ofMembers, bind_eq_ok_iff] at h
    obtain ⟨_, -, _, -, _, -, _, -, _, -, _, -, _, -, _, -, _, -, _, -, _, -, _, -, _, -, _, -,
      _, -, _, -, _, -, _, -, _, -, h⟩ := h
    cases h
    rfl
  | _ => cases h

/-! ## Fields -/

/-- The names of the fields of a customer that can be queried. -/
def fieldNames : List String :=
  ["id", "first_name", "zip_code", "is_vip", "age", "score", "tags", "joined_at", "version"]

/-- A field of `c` as its document has it: identifiers and moments are texts, a score that is not
finite is null, and a large version is a float. -/
def keptField? (c : Customer) (name : String) : Option Value :=
  match name with
  | "id" => some (.text c.id.render)
  | "score" => some (if c.state.score.isFinite then .float c.state.score else .null)
  | "joined_at" => some (.ofOption (fun t => .text t.renderZulu) c.state.joinedAt)
  | "version" =>
    some (if c.version.toNat < 2 ^ 63 then .int c.version.toInt64
      else .float (Binary64.ofInt c.version.toNat))
  | name => c.field? name

theorem ofJson?_ofInt64 (n : Int64) : Value.ofJson? (.ofInt64 n) = some (.int n) := by
  rw [Json.ofInt64, Value.ofJson?, Value.ofJsonNumber, if_pos (Int64.toInt_lt n), Int64.ofInt_toInt]

/-- An unsigned number is read as an integer if it fits, and as a float otherwise. -/
theorem ofJson?_ofUInt64 (n : UInt64) : Value.ofJson? (.ofUInt64 n) =
    some (if n.toNat < 2 ^ 63 then .int n.toInt64 else .float (Binary64.ofInt n.toNat)) := by
  rw [Json.ofUInt64, Value.ofJson?, Value.ofJsonNumber]
  by_cases h : n.toNat < 2 ^ 63
  · have hint : Int64.ofInt n.toNat = n.toInt64 := by
      apply Int64.toBitVec_inj.mp
      simp
    rw [if_pos h, if_pos (by omega), hint]
  · rw [if_neg h, if_neg (by omega)]
    rfl

/-- A float is read as it was if it is finite, and as null otherwise. -/
theorem ofJson?_ofBinary64 (x : Binary64) : Value.ofJson? (.ofBinary64 x) =
    some (if x.isFinite then .float x else .null) := by
  rw [Json.ofBinary64]
  by_cases h : x.isFinite = true
  · rw [dif_pos h, if_pos h]
    rfl
  · rw [dif_neg h, if_neg h]
    rfl

theorem ofJson?_ofOption {α : Type} {f : α → Json} {g : α → Value}
    (h : ∀ a, Value.ofJson? (f a) = some (g a)) (a : Option α) :
    Value.ofJson? (.ofOption f a) = some (.ofOption g a) := by
  cases a with
  | none => rfl
  | some a => exact h a

theorem ofJsonItems?_strings (ss : List String) :
    Value.ofJsonItems? (ss.map .string) = some (ss.map .text) := by
  induction ss with
  | nil => rfl
  | cons s rest ih =>
    rw [List.map_cons, Value.ofJsonItems?, ih]
    rfl

theorem field?_eq {key : String} {members : List (String × Json)} {j : Json}
    (hkey : Text.split '.' key = [key]) (hj : Json.member? key members = some j) :
    Record.field? (Json.object members) key = Value.ofJson? j := by
  show Json.valueAt? (Text.split '.' key) _ = _
  rw [hkey, Json.valueAt?, hj]
  exact Json.valueAt?.eq_1 j

/-- What a query on the document of `c` sees under `name` is `c.keptField? name`. -/
theorem field?_document {c : Customer} {members : List (String × Json)} (h : c.IsKeptAs members)
    {name : String} (hname : name ∈ fieldNames) :
    Record.field? (Json.object members) name = c.keptField? name := by
  have hsplit : Text.split '.' name = [name] := by
    have hall : ∀ name ∈ fieldNames, Text.split '.' name = [name] := by decide
    exact hall name hname
  simp only [fieldNames, List.mem_cons, List.not_mem_nil, or_false] at hname
  rcases hname with rfl | rfl | rfl | rfl | rfl | rfl | rfl | rfl | rfl
  · exact field?_eq hsplit h.id
  · exact field?_eq hsplit h.firstName
  · refine (field?_eq hsplit h.zipCode).trans ?_
    rw [ofJson?_ofOption fun _ => rfl]
    show _ = some (Value.ofOptionalText c.state.zipCode)
    cases c.state.zipCode <;> rfl
  · exact field?_eq hsplit h.isVip
  · exact (field?_eq hsplit h.age).trans (ofJson?_ofInt64 _)
  · exact (field?_eq hsplit h.score).trans (ofJson?_ofBinary64 _)
  · refine (field?_eq hsplit h.tags).trans ?_
    rw [Value.ofJson?, ofJsonItems?_strings]
    rfl
  · exact (field?_eq hsplit h.joinedAt).trans (ofJson?_ofOption (fun _ => rfl) _)
  · exact (field?_eq hsplit h.version).trans (ofJson?_ofUInt64 _)

end Customer

end Quarry
