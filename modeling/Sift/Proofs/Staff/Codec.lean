import Mathlib.Data.List.Nodup
import Sift.Proofs.Json.Layouts
import Sift.Staff.Document

/-!
# Standard codecs

What is relied on of a codec is that it writes and reads objects with certain members, and says
nothing of how.  The members of a person have four names, which `Person.WrittenAs` lists with what
stands for each: the name and the gender are strings or null, the age is an integer and the flag a
truth value.  A string is whatever spelling of a text (`Json.IsText`), so a codec may escape what it
likes as long as the escapes stand for the text.

A person is read from more than what is written for it (`Person.ReadFrom`).  The members may come in
any order, and a missing one stands for a default.

A codec is standard (`Codec.Standard`) if every record is a layout of an object written for the
person, and if every layout of an array of objects is decoded as the persons that are read from
them.  The codec of this project is (`Codec.standard_direct`): reading a member does not depend on
where it stands (`Json.member?_of_mem`), and each value is decoded to what it stands for.
-/

set_option autoImplicit false

namespace Sift

namespace Json

/-! ## Values -/

/-- A string that stands for a text. -/
inductive IsText (text : String) : Json → Prop where
  | mk {content : List Piece} (spelt : textOf content = some text) : IsText text (.string content)

/-- What stands for something that may be missing: null, or what stands for it. -/
inductive Nullable {α : Type} (StandsFor : α → Json → Prop) : Option α → Json → Prop where
  | null : Nullable StandsFor none .null
  | some {a : α} {json : Json} (stands : StandsFor a json) : Nullable StandsFor (some a) json

/-- The number that is written for an integer. -/
def IsInteger (n : Int) (json : Json) : Prop :=
  json = .number (.ofInt n)

/-- A truth value. -/
def IsBoolean (b : Bool) (json : Json) : Prop :=
  json = .boolean b

/-! ## Members -/

/-- An object with members whose keys stand for names. -/
inductive HasMembers (members : List (String × Json)) : Json → Prop where
  | mk {spelt : List (List Piece × Json)}
      (keys : List.Forall₂ (fun member piece => textOf piece.1 = some member.1 ∧ piece.2 = member.2)
        members spelt) :
      HasMembers members (.object spelt)

/-- What members hold under a name: what the value there stands for, or a default without one. -/
inductive MemberHolds {α : Type} (members : List (String × Json)) (name : String)
    (StandsFor : α → Json → Prop) (default : α) : α → Prop where
  | present {a : α} {value : Json} (member : (name, value) ∈ members) (stands : StandsFor a value) :
      MemberHolds members name StandsFor default a
  | missing (absent : name ∉ members.map Prod.fst) :
      MemberHolds members name StandsFor default default

end Json

/-- What stands for a gender is its name. -/
def Gender.IsNamed (gender : Gender) : Json → Prop :=
  Json.IsText gender.name

namespace Person

/-- The names of a person's members. -/
def memberNames : List String :=
  ["name", "age", "gender", "firedNearRetirement"]

/-- The members that are written for a person. -/
inductive WrittenAs (person : Person) : List (String × Json) → Prop where
  | mk {name age gender fired : Json} (isName : Json.Nullable Json.IsText person.name name)
      (isAge : Json.IsInteger person.age.toInt age)
      (isGender : Json.Nullable Gender.IsNamed person.gender gender)
      (isFired : Json.IsBoolean person.firedNearRetirement fired) :
      WrittenAs person
        [("name", name), ("age", age), ("gender", gender), ("firedNearRetirement", fired)]

/-- The members that a person is read from: some of the four, none twice, in any order. -/
structure ReadFrom (person : Person) (members : List (String × Json)) : Prop where
  distinct : (members.map Prod.fst).Nodup
  known : members.map Prod.fst ⊆ memberNames
  name : Json.MemberHolds members "name" (Json.Nullable Json.IsText) none person.name
  age : Json.MemberHolds members "age" (fun age : Int32 => Json.IsInteger age.toInt) 0 person.age
  gender : Json.MemberHolds members "gender" (Json.Nullable Gender.IsNamed) none person.gender
  fired : Json.MemberHolds members "firedNearRetirement" Json.IsBoolean false
    person.firedNearRetirement

/-- A person is read from what is written for it. -/
theorem WrittenAs.readFrom {person : Person} {members : List (String × Json)}
    (written : person.WrittenAs members) : person.ReadFrom members := by
  cases written with
  | mk isName isAge isGender isFired =>
    refine ⟨?_, ?_, .present (.head _) isName, .present (.tail _ (.head _)) isAge,
      .present (.tail _ (.tail _ (.head _))) isGender,
      .present (.tail _ (.tail _ (.tail _ (.head _)))) isFired⟩
    · change memberNames.Nodup
      decide
    · exact List.Subset.refl memberNames

end Person

/-! ## Codecs -/

/-- A codec that writes and reads documents as they are documented. -/
structure Codec.Standard [Codec] : Prop where
  /-- The record of a person is a text of an object with the person's members. -/
  encodes (person : Person) : ∃ record members document, Codec.encode person = .ok record ∧
    Json.Layout document record.toList ∧ Json.HasMembers members document ∧
    person.WrittenAs members
  /-- A text of an array of objects is decoded as the persons that are read from their members. -/
  decodes {documents : List Json} {people : List Person} {before inside after : List Char}
    (leading : Json.IsGap before) (array : Json.Layout (.array documents) inside)
    (trailing : Json.IsGap after)
    (objects : List.Forall₂ (fun person document =>
      ∃ members, Json.HasMembers members document ∧ person.ReadFrom members) people documents) :
    Codec.decode (String.ofList (before ++ (inside ++ after))) = .ok people

/-! ## Reading values -/

/-- A list is decoded if every element is. -/
theorem mapM_of_forall₂ {α β : Type} {decode : β → Option α} {elements : List α} {images : List β}
    (each : List.Forall₂ (fun element image => decode image = some element) elements images) :
    images.mapM decode = some elements := by
  induction each with
  | nil => rfl
  | cons first _ ih =>
    rw [List.mapM_cons, first, ih]
    rfl

namespace Json

section Values

variable {json : Json}

theorem asText?_of_isText {text : String} (stands : IsText text json) :
    asText? json = some text := by
  cases stands with
  | mk spelt => exact spelt

theorem asInt32?_of_isInteger {n : Int32} (stands : IsInteger n.toInt json) :
    asInt32? json = some n := by
  have range : Int32.minValue.toInt ≤ n.toInt ∧ n.toInt ≤ Int32.maxValue.toInt :=
    ⟨n.minValue_le_toInt, n.toInt_le⟩
  rw [stands, asInt32?, Numeral.integer?_ofInt, Option.bind_some, if_pos range, Int32.ofInt_toInt]

theorem asBoolean?_of_isBoolean {b : Bool} (stands : IsBoolean b json) :
    asBoolean? json = some b := by
  rw [stands, asBoolean?]

/-- What may be null is read by whatever reads what is not. -/
theorem orNull?_of_nullable {α : Type} {StandsFor : α → Json → Prop} {decode : Json → Option α}
    {content : Option α} (stands : Nullable StandsFor content json) (noNull : decode .null = none)
    (decodes : ∀ a json, StandsFor a json → decode json = some a) :
    orNull? decode json = some content := by
  cases stands with
  | null => rfl
  | some stands =>
    have decoded := decodes _ _ stands
    rw [orNull?, decoded, Option.map_some]
    rintro rfl
    rw [noNull] at decoded
    cases decoded

end Values

/-! ## Reading members -/

/-- Keys that stand for names are read as the names. -/
theorem exists_keyed? {members : List (String × Json)} {document : Json}
    (object : HasMembers members document) :
    ∃ spelt, document = .object spelt ∧ keyed? spelt = some members := by
  obtain ⟨keys⟩ := object
  refine ⟨_, rfl, mapM_of_forall₂ (keys.imp ?_)⟩
  rintro ⟨name, value⟩ ⟨key, spelt⟩ ⟨stands, same⟩
  obtain rfl : spelt = value := same
  exact congrArg (Option.map fun key => (key, spelt)) stands

/-- Where no name occurs twice, a member is read by its name. -/
theorem member?_of_mem {α : Type} {members : List (String × Json)} {name : String} {value : Json}
    (distinct : (members.map Prod.fst).Nodup) (member : (name, value) ∈ members)
    (decode : Json → Option α) (default : α) :
    member? members name decode default = decode value := by
  obtain ⟨before, after, rfl⟩ := List.append_of_mem member
  rw [List.map_append, List.map_cons, List.nodup_middle, List.nodup_cons, ← List.map_append]
    at distinct
  have others : ∀ other ∈ before ++ after, ¬(other.1 == name) = true := by
    intro other inside same
    exact distinct.1 (List.mem_map.2 ⟨other, inside, beq_iff_eq.1 same⟩)
  have only : ((before ++ (name, value) :: after).filter fun member => member.1 == name) =
      [(name, value)] := by
    have found : ((name, value).1 == name) = true := beq_self_eq_true name
    rw [List.filter_append, List.filter_cons, if_pos found,
      List.filter_eq_nil_iff.2 fun other inside => others other (List.mem_append_left _ inside),
      List.filter_eq_nil_iff.2 fun other inside => others other (List.mem_append_right _ inside),
      List.nil_append]
  rw [member?, only]

/-- Without a member, the default is read. -/
theorem member?_of_notMem {α : Type} {members : List (String × Json)} {name : String}
    (absent : name ∉ members.map Prod.fst) (decode : Json → Option α) (default : α) :
    member? members name decode default = some default := by
  have nothing : (members.filter fun member => member.1 == name) = [] := by
    rw [List.filter_eq_nil_iff]
    intro other inside same
    exact absent (List.mem_map.2 ⟨other, inside, beq_iff_eq.1 same⟩)
  rw [member?, nothing]

/-- What members hold is read from them. -/
theorem member?_of_holds {α : Type} {members : List (String × Json)} {name : String}
    {StandsFor : α → Json → Prop} {decode : Json → Option α} {default a : α}
    (distinct : (members.map Prod.fst).Nodup)
    (stands : MemberHolds members name StandsFor default a)
    (decodes : ∀ a json, StandsFor a json → decode json = some a) :
    member? members name decode default = some a := by
  cases stands with
  | present member stands => rw [member?_of_mem distinct member, decodes _ _ stands]
  | missing absent => exact member?_of_notMem absent decode _

end Json

/-! ## The codec of this project -/

theorem Gender.ofJson?_of_isNamed {gender : Gender} {json : Json} (stands : gender.IsNamed json) :
    ofJson? json = some gender := by
  cases stands with
  | mk spelt =>
    rw [ofJson?, spelt, Option.bind_some]
    cases gender <;> decide

namespace Person

/-- **A person is read from the members of an object.** -/
theorem ofJson?_of_readFrom {person : Person} {members : List (String × Json)} {document : Json}
    (object : Json.HasMembers members document) (reads : person.ReadFrom members) :
    ofJson? document = some person := by
  have name := Json.member?_of_holds reads.distinct reads.name fun _ _ stands =>
    Json.orNull?_of_nullable stands rfl fun _ _ => Json.asText?_of_isText
  have age := Json.member?_of_holds reads.distinct reads.age fun _ _ => Json.asInt32?_of_isInteger
  have gender := Json.member?_of_holds reads.distinct reads.gender fun _ _ stands =>
    Json.orNull?_of_nullable stands rfl fun _ _ => Gender.ofJson?_of_isNamed
  have fired := Json.member?_of_holds reads.distinct reads.fired fun _ _ =>
    Json.asBoolean?_of_isBoolean
  obtain ⟨spelt, rfl, keyed⟩ := Json.exists_keyed? object
  rw [ofJson?, keyed, Option.bind_some, ofMembers?, name, age, gender, fired]
  rfl

/-- The members of a person's document. -/
def members (person : Person) : List (String × Json) := [
  ("name", textOrNull person.name),
  ("age", .number (.ofInt person.age.toInt)),
  ("gender", textOrNull (person.gender.map Gender.name)),
  ("firedNearRetirement", .boolean person.firedNearRetirement)]

/-- A text or its absence is written for whatever the text stands for. -/
theorem nullable_textOrNull {α : Type} {StandsFor : α → Json → Prop} {spell : α → String}
    (stands : ∀ a, StandsFor a (.string (Json.spelling (spell a)))) (content : Option α) :
    Json.Nullable StandsFor content (textOrNull (content.map spell)) := by
  cases content with
  | none => exact .null
  | some a => exact .some (stands a)

theorem writtenAs_members (person : Person) : person.WrittenAs person.members := by
  have name := @nullable_textOrNull String Json.IsText id
    (fun text => .mk (Json.textOf_spelling text)) person.name
  rw [Option.map_id_apply] at name
  exact .mk name rfl (nullable_textOrNull (fun _ => .mk (Json.textOf_spelling _)) _) rfl

theorem hasMembers_toJson (person : Person) : Json.HasMembers person.members person.toJson := by
  refine .mk (.cons ?_ (.cons ?_ (.cons ?_ (.cons ?_ .nil))))
  all_goals exact ⟨Json.textOf_spelling _, rfl⟩

/-- A text or its absence can be written. -/
theorem isWritable_textOrNull (content : Option String) : (textOrNull content).IsWritable := by
  cases content with
  | none => exact trivial
  | some text => exact Json.isWritable_of_mem_spelling

/-- A person's document can be written. -/
theorem isWritable_toJson (person : Person) : person.toJson.IsWritable := by
  simp only [toJson, Json.IsWritable, Json.MembersAreWritable, isWritable_textOrNull,
    Json.Numeral.isWritable_ofInt, and_true, true_and]
  exact ⟨Json.isWritable_of_mem_spelling, Json.isWritable_of_mem_spelling,
    Json.isWritable_of_mem_spelling, Json.isWritable_of_mem_spelling⟩

end Person

/-- **The codec of this project is standard.** -/
theorem Codec.standard_direct : @Codec.Standard Codec.direct := by
  refine @Codec.Standard.mk Codec.direct (fun person => ?_) ?_
  · refine ⟨person.record, person.members, person.toJson, rfl, ?_, person.hasMembers_toJson,
      person.writtenAs_members⟩
    rw [Person.record, Json.text, String.toList_ofList]
    exact Json.layout_written person.isWritable_toJson
  · intro documents people before inside after leading array trailing objects
    have read := Json.read_of_layout array leading trailing
    have decoded : documents.mapM Person.ofJson? = some people := by
      refine mapM_of_forall₂ (objects.imp ?_)
      rintro person document ⟨members, object, reads⟩
      exact Person.ofJson?_of_readFrom object reads
    simp only [Codec.decode, readAll?, read, decoded]

end Sift
