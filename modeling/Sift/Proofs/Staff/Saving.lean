import Sift.Proofs.Failure
import Sift.Proofs.Staff.Codec

/-!
# Saved persons are loaded

A standard codec writes a record for every person.  Whatever escapes there are in it, the record is
a layout of an object with the person's members (`Codec.Standard.exists_records`), so an array of
records is a layout of an array of such objects, and a person is read from the members that are
written for it.

Nothing of a person is lost then, whatever its name is spelt of, and a file that holds an array of
the records of persons is loaded as these persons, in order and all of them.  Only the age may be
in the way: if one of the persons has a negative age, none is loaded (`loadPeople_records`).

Loading is described once for all (`loadPeople_eq_ok_iff`, `loadPeople_eq_error_iff`): when it
succeeds, and which of three faults keeps a file from being loaded.
-/

set_option autoImplicit false

namespace Sift

section Standard

variable [Codec] (standard : Codec.Standard)
include standard

/-- Every person has a record, and the records are texts of objects with the persons' members. -/
theorem Codec.Standard.exists_records (people : List Person) :
    ∃ records documents, people.mapM Codec.encode = .ok records ∧
      List.Forall₂ (fun record document => ∀ text, Json.Verbatim record text →
        Json.Layout document text) records documents ∧
      List.Forall₂ (fun person document => ∃ members, Json.HasMembers members document ∧
        person.WrittenAs members) people documents := by
  induction people with
  | nil => exact ⟨[], [], rfl, .nil, .nil⟩
  | cons person people ih =>
    obtain ⟨record, members, document, encoded, layout, object, written⟩ := standard.encodes person
    obtain ⟨records, documents, others, layouts, objects⟩ := ih
    refine ⟨record :: records, document :: documents, ?_, .cons ?_ layouts,
      .cons ⟨members, object, written⟩ objects⟩
    · rw [List.mapM_cons, encoded, others]
      rfl
    · rintro _ rfl
      exact layout

/-- The persons whose records stand in an array are decoded from it in order. -/
theorem Codec.Standard.exists_decode {people : List Person} :
    ∃ records, people.mapM Codec.encode = .ok records ∧
      ∀ contents, Json.IsArrayOf records contents → Codec.decode contents = .ok people := by
  obtain ⟨records, documents, encoded, layouts, objects⟩ := standard.exists_records people
  refine ⟨records, encoded, ?_⟩
  rintro _ ⟨before, inside, after, leading, listed, trailing, rfl⟩
  refine standard.decodes leading (.array (listed.of_forall₂ layouts)) trailing (objects.imp ?_)
  rintro person document ⟨members, object, written⟩
  exact ⟨members, object, written.readFrom⟩

end Standard

/-! ## Loading -/

section Loading

variable [Codec] {files : Files} {path : String}

/-- What keeps the file under a path from being loaded. -/
inductive LoadFault.Keeps (files : Files) (path : String) : LoadFault → Prop where
  | unreadable {cause : String} (refused : files path = .error cause) :
      Keeps files path (.unreadable cause)
  | malformed {document cause : String} (readable : files path = .ok document)
      (refused : Codec.decode document = .error cause) : Keeps files path (.malformed cause)
  | negativeAge {document : String} {people : List Person} {person : Person}
      (readable : files path = .ok document) (decoded : Codec.decode document = .ok people)
      (member : person ∈ people) (negative : person.age < 0) : Keeps files path .negativeAge

theorem loadPeople_of_unreadable {cause : String} (refused : files path = .error cause) :
    loadPeople files path = .error ⟨path, .unreadable cause⟩ := by
  rw [loadPeople, refused]
  rfl

theorem loadPeople_of_malformed {document cause : String} (readable : files path = .ok document)
    (refused : Codec.decode document = .error cause) :
    loadPeople files path = .error ⟨path, .malformed cause⟩ := by
  rw [loadPeople, readable]
  show ((Codec.decode document).mapError _ >>= _) = _
  rw [refused]
  rfl

/-- A readable file whose document is decoded is loaded unless someone has a negative age. -/
theorem loadPeople_of_decoded {document : String} {people : List Person}
    (readable : files path = .ok document) (decoded : Codec.decode document = .ok people) :
    loadPeople files path =
      if ∃ person ∈ people, person.age < 0 then .error ⟨path, .negativeAge⟩ else .ok people := by
  have decides : (people.any fun person => person.age < 0) = true ↔
      ∃ person ∈ people, person.age < 0 := by
    simp only [List.any_eq_true, decide_eq_true_eq]
  rw [loadPeople, readable]
  show ((Codec.decode document).mapError _ >>= _) = _
  rw [decoded]
  exact if_congr decides rfl rfl

/-- Persons are loaded exactly if they are decoded and their ages are natural. -/
theorem loadPeople_eq_ok_iff {people : List Person} :
    loadPeople files path = .ok people ↔ ∃ document, files path = .ok document ∧
      Codec.decode document = .ok people ∧ ∀ person ∈ people, 0 ≤ person.age := by
  constructor
  · intro loaded
    obtain ⟨document, readable, rest⟩ := do_eq_ok_iff.1 loaded
    rw [mapError_eq_ok_iff] at readable
    obtain ⟨others, decoded, _⟩ := do_eq_ok_iff.1 rest
    rw [mapError_eq_ok_iff] at decoded
    rw [loadPeople_of_decoded readable decoded] at loaded
    by_cases negative : ∃ person ∈ others, person.age < 0
    · rw [if_pos negative] at loaded
      cases loaded
    · rw [if_neg negative] at loaded
      obtain rfl := Except.ok.inj loaded
      exact ⟨document, readable, decoded, fun person member =>
        Int32.not_lt.1 fun less => negative ⟨person, member, less⟩⟩
  · rintro ⟨document, readable, decoded, natural⟩
    rw [loadPeople_of_decoded readable decoded, if_neg]
    rintro ⟨person, member, negative⟩
    exact Int32.not_lt.2 (natural person member) negative

/-- A fault that keeps a file from being loaded is reported with the name of the file. -/
theorem LoadFault.Keeps.loadPeople_eq {fault : LoadFault} (keeps : fault.Keeps files path) :
    loadPeople files path = .error ⟨path, fault⟩ := by
  cases keeps with
  | unreadable refused => exact loadPeople_of_unreadable refused
  | malformed readable refused => exact loadPeople_of_malformed readable refused
  | negativeAge readable decoded member negative =>
    rw [loadPeople_of_decoded readable decoded, if_pos ⟨_, member, negative⟩]

/-- Nothing else is reported. -/
theorem loadPeople_eq_error_iff {error : LoadError} :
    loadPeople files path = .error error ↔ error.file = path ∧ error.fault.Keeps files path := by
  constructor
  · intro failed
    obtain ⟨fault, keeps⟩ : ∃ fault : LoadFault, fault.Keeps files path := by
      cases readable : files path with
      | error cause => exact ⟨_, .unreadable readable⟩
      | ok document =>
        cases decoded : Codec.decode document with
        | error cause => exact ⟨_, .malformed readable decoded⟩
        | ok people =>
          by_contra natural
          have loaded := loadPeople_eq_ok_iff.2 ⟨document, readable, decoded,
            fun person member => Int32.not_lt.1 fun negative =>
              natural ⟨_, .negativeAge readable decoded member negative⟩⟩
          rw [loaded] at failed
          cases failed
    obtain rfl := Except.error.inj (keeps.loadPeople_eq.symm.trans failed)
    exact ⟨rfl, keeps⟩
  · obtain ⟨file, fault⟩ := error
    rintro ⟨rfl, keeps⟩
    exact keeps.loadPeople_eq

end Loading

/-- **A file that holds an array of the records of persons is loaded as these persons, in order.**
Let the codec be standard.  Every person has a record, and the records may stand between the
brackets with nothing but commas, or with blanks around them.  If one of the persons has a negative
age, none is loaded. -/
theorem loadPeople_records [Codec] (standard : Codec.Standard) (people : List Person) :
    ∃ records, people.mapM Codec.encode = .ok records ∧
      Json.IsArrayOf records ("[" ++ ",".intercalate records ++ "]") ∧
      ∀ (files : Files) (path contents : String), files path = .ok contents →
        Json.IsArrayOf records contents →
        ((∀ person ∈ people, 0 ≤ person.age) → loadPeople files path = .ok people) ∧
        ((∃ person ∈ people, person.age < 0) →
          loadPeople files path = .error ⟨path, .negativeAge⟩) := by
  obtain ⟨records, encoded, decodes⟩ := standard.exists_decode
  refine ⟨records, encoded, Json.isArrayOf_intercalate records, ?_⟩
  intro files path contents readable array
  have decoded := decodes contents array
  constructor
  · intro natural
    exact loadPeople_eq_ok_iff.2 ⟨contents, readable, decoded, natural⟩
  · rintro ⟨person, member, negative⟩
    exact LoadFault.Keeps.loadPeople_eq (.negativeAge readable decoded member negative)

/-- A name of marks and controls is loaded from its record.  In a file with a negative age, where
each record has a line of its own, it is not. -/
theorem loadPeople_records_escaped :
    let someone : Person := ⟨some "\"\\\n\x01é", 70, some .female, true⟩
    let record := "\x7b\"name\":\"\\\"\\\\\\n\\u0001é\",\"age\":70," ++
      "\"gender\":\"FEMALE\",\"firedNearRetirement\":true\x7d"
    let other := "\x7b\"name\":null,\"age\":-1,\"gender\":null,\"firedNearRetirement\":false\x7d"
    let files : Files := fun path =>
      if path = "lines" then .ok ("[\n" ++ record ++ ",\n" ++ other ++ "\n]\n")
      else .ok ("[" ++ record ++ "]")
    @Codec.Standard Codec.direct ∧
    @loadPeople Codec.direct files "alone" = .ok [someone] ∧
    @loadPeople Codec.direct files "lines" = .error ⟨"lines", .negativeAge⟩ := by
  intro someone record other files
  let nobody : Person := { age := -1 }
  have recorded : record = someone.record := by
    dsimp only [record, someone]
    decide +kernel
  have otherRecorded : other = nobody.record := by
    dsimp only [other, nobody]
    decide +kernel
  have line : Json.IsGap ['\n'] := by
    rintro _ (_ | ⟨_, ⟨⟩⟩)
    rfl
  have lines : Json.Listed Json.Verbatim [record, other] _ :=
    .cons line rfl Json.isGap_nil (.last line rfl line)
  have both : Json.IsArrayOf [record, other] ("[\n" ++ record ++ ",\n" ++ other ++ "\n]\n") := by
    refine ⟨[], _, ['\n'], Json.isGap_nil, lines, line, ?_⟩
    rw [← String.toList_inj]
    simp
  have alone : Json.IsArrayOf [record] ("[" ++ record ++ "]") := by
    have array := Json.isArrayOf_intercalate [record]
    rwa [String.intercalate_singleton] at array
  obtain ⟨records, encoded, -, loads⟩ :=
    @loadPeople_records Codec.direct Codec.standard_direct [someone]
  obtain rfl : [record] = records := by
    rw [recorded]
    exact Except.ok.inj encoded
  obtain ⟨allRecords, allEncoded, -, fails⟩ :=
    @loadPeople_records Codec.direct Codec.standard_direct [someone, nobody]
  obtain rfl : [record, other] = allRecords := by
    rw [recorded, otherRecorded]
    exact Except.ok.inj allEncoded
  exact ⟨Codec.standard_direct, (loads files "alone" _ rfl alone).1 (by decide),
    (fails files "lines" _ rfl both).2 ⟨nobody, by decide, by decide⟩⟩

end Sift
