import KeyCustody.Catalog.Rest
import KeyCustody.Proofs.Json.RoundTrip
import KeyCustody.Proofs.Keyed
import KeyCustody.Proofs.Time.Rfc3339
import KeyCustody.Secret.Wire

/-!
# Secrets read back

The written form of a secret is read as that secret without its material, so it holds all the rest: two secrets that
differ in anything else have different texts.
-/

namespace KeyCustody

open Json Time

/-- Items that are each read as what they were written from are read as the list. -/
theorem mapM_written {α β : Type} (f : α → β) (g : β → Option α) (back : ∀ a, g (f a) = some a) (as : List α) :
    (as.map f).mapM g = some as := by
  rw [List.mapM_map, show g ∘ f = fun a => pure (id a) from funext back, List.mapM_pure, List.map_id]
  rfl

namespace Attributes

variable {name text : String} {es fs : List (String × String)}

theorem put_last (last : ∀ e ∈ es, e.1 < name) : put name text es = es ++ [(name, text)] := by
  induction es with
  | nil => rfl
  | cons e es ih =>
    obtain ⟨first, others⟩ := List.forall_mem_cons.1 last
    have behind : ¬name < e.1 := String.lt_asymm first
    have different : name ≠ e.1 := (String.ne_of_lt first).symm
    rw [put, if_neg behind, if_neg different, ih others, List.cons_append]

/-- Entries in order are put one behind the other. -/
theorem entries_foldl_insert (a : Attributes) (sorted : (a.entries ++ es).Pairwise fun e f => e.1 < f.1) :
    (es.foldl (fun a e => a.insert e.1 e.2) a).entries = a.entries ++ es := by
  induction es generalizing a with
  | nil => rw [List.append_nil]; rfl
  | cons e es ih =>
    have last : ∀ f ∈ a.entries, f.1 < e.1 := fun f member =>
      (List.pairwise_append.1 sorted).2.2 f member e List.mem_cons_self
    have put : (a.insert e.1 e.2).entries = a.entries ++ [e] := put_last last
    rw [List.append_cons, ← put] at sorted ⊢
    exact ih (a.insert e.1 e.2) sorted

theorem ofList_entries (a : Attributes) : ofList a.entries = a := by
  have entries : (ofList a.entries).entries = a.entries := entries_foldl_insert ∅ a.sorted
  obtain ⟨es, sorted⟩ := a
  generalize ofList es = b at entries
  obtain ⟨fs, _⟩ := b
  cases entries
  rfl

theorem ofJson?_toJson (a : Attributes) : ofJson? a.toJson = some a := by
  have entries := mapM_written (fun e : String × String => (e.1, Json.string e.2))
    (fun m => do return (m.1, ← m.2.asString?)) (fun _ => rfl) a.entries
  show Option.bind (List.mapM _ (a.entries.map _)) (fun es => some (ofList es)) = _
  rw [entries, Option.bind_some, ofList_entries]

end Attributes

namespace Secret

variable {s : Secret} {name : String}

/-! ## Fields -/

/-- The dates of a secret. -/
def dates (s : Secret) : List Instant := s.activation.toList ++ s.expiration.toList ++ s.creation.toList

/-- Every date of the secret is one that a text can give. -/
def Dated (s : Secret) : Prop := ∀ t ∈ s.dates, t.Writable

theorem read_tags (tags : List String) : strings? (.array (tags.map .string)) = some tags :=
  mapM_written Json.string asString? (fun _ => rfl) tags

theorem read_date {date : Option Instant} (writable : ∀ t ∈ date.toList, t.Writable) :
    nullable? Instant.ofJson? (.ofString? (date.map Rfc3339.write)) = some date := by
  cases date with
  | none => rfl
  | some t =>
    simp only [Option.map_some, ofString?, Option.elim_some, nullable?, Instant.ofJson?, asString?, Option.bind_some,
      Rfc3339.read?_write (writable t List.mem_cons_self)]

theorem read_phase (phase : Phase) : variant? Phase.ofName? (.string phase.name) = some phase := phase.ofName?_name

theorem read_reason (reason : Option Reason) :
    nullable? (variant? Reason.ofName?) (.ofString? (reason.map Reason.name)) = some reason := by
  cases reason with
  | none => rfl
  | some r =>
    show (Reason.ofName? r.name).map some = _
    rw [Reason.ofName?_name]
    rfl

theorem names_optionalMember (name : String) (text : Option String) :
    List.Sublist ((optionalMember name text).map (·.1)) [name] := by
  cases text with
  | none => exact List.nil_sublist _
  | some text => exact .refl _

/-- The names of what is written are known, and none of them stands twice. -/
theorem names_members (s : Secret) : List.Sublist (s.members.map (·.1)) fieldNames := by
  simp only [members, List.map_cons, List.map_append]
  have algorithm := (names_optionalMember "algorithm_type" s.algorithm).append (.refl (fieldNames.drop 5))
  have description := (names_optionalMember "description" s.description).append (algorithm.cons_cons "tags")
  exact (description.cons_cons "name").cons_cons "id"

theorem nodup_members (s : Secret) : (s.members.map (·.1)).Nodup := (names_members s).nodup (by decide)

theorem record?_toJson (s : Secret) : s.toJson.record? fieldNames 0 = some s.members := by
  have known : s.members.filter (fun m => fieldNames.contains m.1) = s.members :=
    List.filter_eq_self.2 fun m member =>
      List.contains_iff_mem.2 ((names_members s).subset (List.mem_map_of_mem member))
  rw [toJson, record?]
  simp only [known]
  rw [if_pos (nodup_members s)]

section Reading

variable {α : Type} {read : Json → Option α} {absent : Option α} {j : Json}

theorem field?_written (written : (name, j) ∈ s.members) : field? s.members name read absent = read j := by
  rw [field?, (Keyed.lookup_eq_some_iff (nodup_members s)).2 written]

theorem field?_unwritten (unwritten : name ∉ s.members.map (·.1)) : field? s.members name read absent = absent := by
  rw [field?, Keyed.lookup_missing unwritten]

end Reading

theorem read_description (s : Secret) :
    field? s.members "description" (nullable? asString?) (some none) = some s.description := by
  cases given : s.description with
  | none =>
    refine field?_unwritten ?_
    cases algorithm : s.algorithm <;> simp [members, given, algorithm, optionalMember]
  | some text => exact field?_written (j := .string text) (by simp [members, given, optionalMember])

theorem read_algorithm (s : Secret) :
    field? s.members "algorithm_type" (nullable? asString?) (some none) = some s.algorithm := by
  cases given : s.algorithm with
  | none =>
    refine field?_unwritten ?_
    cases description : s.description <;> simp [members, given, description, optionalMember]
  | some text => exact field?_written (j := .string text) (by simp [members, given, optionalMember])

/-- The value that is written of a secret is read as that secret, without its material. -/
theorem ofJson?_toJson (dated : s.Dated) : ofJson? s.toJson = some { s with payload := none } := by
  have id : field? s.members "id" asString? (some "") = some s.id :=
    field?_written (j := .string s.id) (by simp [members])
  have name : field? s.members "name" asString? none = some s.name :=
    field?_written (j := .string s.name) (by simp [members])
  have tags : field? s.members "tags" strings? (some []) = some s.tags :=
    (field?_written (by simp [members])).trans (read_tags s.tags)
  have parameters : field? s.members "algorithm_metadata" Attributes.ofJson? (some ∅) = some s.parameters :=
    (field?_written (by simp [members])).trans s.parameters.ofJson?_toJson
  have notes : field? s.members "user_metadata" Attributes.ofJson? (some ∅) = some s.notes :=
    (field?_written (by simp [members])).trans s.notes.ofJson?_toJson
  have activation : field? s.members "activation_date" (nullable? Instant.ofJson?) (some none) = some s.activation :=
    (field?_written (by simp [members])).trans (read_date fun t member => dated t (by simp [dates, member]))
  have expiration : field? s.members "expiration_date" (nullable? Instant.ofJson?) (some none) = some s.expiration :=
    (field?_written (by simp [members])).trans (read_date fun t member => dated t (by simp [dates, member]))
  have creation : field? s.members "creation_date" (nullable? Instant.ofJson?) (some none) = some s.creation :=
    (field?_written (by simp [members])).trans (read_date fun t member => dated t (by simp [dates, member]))
  have extractable : field? s.members "extractable" asBool? (some true) = some s.extractable :=
    field?_written (j := .bool s.extractable) (by simp [members])
  have deleted : field? s.members "deleted" asBool? (some false) = some s.deleted :=
    field?_written (j := .bool s.deleted) (by simp [members])
  have phase : field? s.members "state" (variant? Phase.ofName?) (some .preactivation) = some s.phase :=
    (field?_written (by simp [members])).trans (read_phase s.phase)
  have reason : field? s.members "nonactive_reason" (nullable? (variant? Reason.ofName?)) (some none) = some s.reason :=
    (field?_written (by simp [members])).trans (read_reason s.reason)
  simp only [ofJson?, record?_toJson, bind, Option.bind, id, name, read_description, tags, read_algorithm, parameters,
    notes, activation, expiration, creation, extractable, deleted, phase, reason]
  rfl

/-! ## The text -/

theorem definite_attributes (a : Attributes) : Definite a.toJson := by
  refine .object fun m member => ?_
  obtain ⟨e, -, rfl⟩ := List.mem_map.1 member
  exact .string e.2

theorem definite_ofString? (text : Option String) : Definite (.ofString? text) := by
  cases text with
  | none => exact .null
  | some text => exact .string text

theorem definite_optionalMember {m : String × Json} {text : Option String} (member : m ∈ optionalMember name text) :
    Definite m.2 := by
  obtain ⟨text, -, rfl⟩ := List.mem_map.1 member
  exact .string text

theorem definite_toJson (s : Secret) : Definite s.toJson := by
  refine .object fun m member => ?_
  simp only [members, List.mem_cons, List.mem_append, List.not_mem_nil, or_false] at member
  rcases member with rfl | rfl | member | rfl | member | rfl | rfl | rfl | rfl | rfl | rfl | rfl | rfl | rfl
  · exact .string _
  · exact .string _
  · exact definite_optionalMember member
  · refine .array fun j member => ?_
    obtain ⟨tag, -, rfl⟩ := List.mem_map.1 member
    exact .string tag
  · exact definite_optionalMember member
  · exact definite_attributes _
  · exact definite_attributes _
  · exact definite_ofString? _
  · exact definite_ofString? _
  · exact definite_ofString? _
  · exact .bool _
  · exact .bool _
  · exact .string _
  · exact definite_ofString? _

theorem read_write_toJson (dated : s.Dated) : read (Json.write s.toJson) = .ok { s with payload := none } := by
  rw [read, read?_write (definite_toJson s), Option.bind_some, ofJson?_toJson dated]

/-- A catalog's answer that holds the text of a secret is read as the secret, too. -/
theorem createReply_written {status : Nat} (dated : s.Dated) (success : Http.isSuccess status = true) :
    Catalog.Rest.createReply ⟨status, some (Text.Utf8.encode (Json.write s.toJson).toList)⟩ =
      .ok { s with payload := none } := by
  have decoded : Http.Reply.decode? ofJson? (Text.Utf8.encode (Json.write s.toJson).toList) =
      some { s with payload := none } := by
    rw [Http.Reply.decode?, show readBytes? (Text.Utf8.encode _) = read? _ from rfl, read?_write (definite_toJson s),
      Option.bind_some, ofJson?_toJson dated]
  simp only [Catalog.Rest.createReply, Catalog.Rest.expectSuccess, success, if_true, bind, Except.bind,
    Http.Reply.json, Http.Reply.bytes, decoded]
  rfl

/-- The text of a secret is read as the secret without its material, on which it does not depend; so the texts of two
secrets that differ in anything else are different. The dates are those that have a text to be read. -/
theorem text_keeps_all_but_material (dated : s.Dated) :
    read (Json.write s.toJson) = .ok { s with payload := none } ∧
      ofJson? s.toJson = some { s with payload := none } ∧
      (∀ payload, { s with payload := payload }.toJson = s.toJson) ∧
      ∀ s' : Secret, s'.Dated → { s' with payload := none } ≠ { s with payload := none } →
        s'.toJson ≠ s.toJson ∧ Json.write s'.toJson ≠ Json.write s.toJson := by
  refine ⟨read_write_toJson dated, ofJson?_toJson dated, fun _ => rfl, fun s' dated' different => ?_⟩
  have texts : Json.write s'.toJson ≠ Json.write s.toJson := by
    intro same
    have read := read_write_toJson dated'
    rw [same, read_write_toJson dated] at read
    exact different (Except.ok.inj read).symm
  exact ⟨fun same => texts (congrArg Json.write same), texts⟩

/-- A secret with a leap second among its dates and a line break in its description, and the same secret with
another flag. -/
theorem text_keeps_all_but_material_of_flags :
    let s : Secret := { named "db-password" with
      description := some "the \"old\" one\n", tags := ["prod"], payload := some ⟨"hunter2"⟩,
      notes := .ofList [("team", "billing")], activation := some ⟨1483228799, 1500000000⟩, phase := .activation,
      reason := some .keyActive }
    s.Dated ∧ { s with extractable := false }.Dated ∧
      read (Json.write s.toJson) = .ok { s with payload := none } ∧
      Json.write { s with extractable := false }.toJson ≠ Json.write s.toJson := by
  intro s
  have dated : s.Dated := by
    intro t member
    obtain rfl : t = ⟨1483228799, 1500000000⟩ := by simpa [dates, s, named] using member
    exact ⟨by decide, by decide⟩
  obtain ⟨back, -, -, apart⟩ := text_keeps_all_but_material dated
  exact ⟨dated, dated, back, (apart { s with extractable := false } dated (by simp [s, named])).2⟩

end Secret

end KeyCustody
