import KeyCustody.Proofs.Secret.Limits
import KeyCustody.Proofs.Violation

/-!
# What is said of a refused secret

The error that refuses a secret tells of the limits it breaks: each field that breaks one is listed once, with at
least one message, and no other field is.
-/

namespace KeyCustody.Secret

variable {s : Secret} {tag message field label : String} {guarded : Bool} {a : Attributes}
  {entry : String × String} {v : Violation} {found : List Violation} {error : Error}

/-! ## Broken limits -/

inductive BadTag (tag : String) : (message : String) → Prop
  | long (h : 30 < tag.length) : BadTag tag "Tag too long"
  | reserved (h : ¬Unreserved tag) :
    BadTag tag "Tag contains a reserved character (angled bracket, colon, ampersand, or vertical pipe)"

inductive BadEntry (label : String) (guarded : Bool) (entry : String × String) : (message : String) → Prop
  | longName (h : 130 < entry.1.length) : BadEntry label guarded entry (label ++ " key too long")
  | reserved (guard : guarded = true) (h : ¬Unreserved entry.1) : BadEntry label guarded entry
    (label ++ " key contains a reserved character (angled bracket, colon, ampersand, or vertical pipe)")
  | longText (h : 130 < entry.2.length) : BadEntry label guarded entry (label ++ " value too long")

/-- The two collections of a secret, how each is called, and whether the names in it may not have reserved
characters. -/
inductive Collection (s : Secret) : (field label : String) → (guarded : Bool) → Attributes → Prop
  | parameters : Collection s "algorithm_metadata" "Algorithm metadata" false s.parameters
  | notes : Collection s "user_metadata" "User metadata" true s.notes

/-- The message tells of a limit that the field of the secret breaks. -/
inductive Breaks (s : Secret) : (field message : String) → Prop
  | name (h : s.name.length < 2 ∨ 230 < s.name.length) : Breaks s "name" "Name incorrect length"
  | description {text : String} (given : s.description = some text) (h : 230 < text.length) :
    Breaks s "description" "Description too long"
  | tags (h : 30 < s.tags.length) : Breaks s "tags" "Too many tags"
  | tag {tag message : String} (member : tag ∈ s.tags) (bad : BadTag tag message) : Breaks s "tags" message
  | entries {field label : String} {guarded : Bool} {a : Attributes} (held : s.Collection field label guarded a)
    (h : 30 < a.size) : Breaks s field ("Too many " ++ label ++ " key value pairs")
  | entry {field label message : String} {guarded : Bool} {a : Attributes} {entry : String × String}
    (held : s.Collection field label guarded a) (member : entry ∈ a.entries)
    (bad : BadEntry label guarded entry message) : Breaks s field message

theorem BadTag.fault (bad : BadTag tag message) : tagFault? tag ≠ none := by
  rw [ne_eq, tagFault?_eq_none]
  rintro ⟨short, unreserved⟩
  cases bad with
  | long long => omega
  | reserved reserved => exact reserved unreserved

theorem badTag_of_fault (h : tagFault? tag = some message) : BadTag tag message := by
  unfold tagFault? at h
  split at h
  next long => exact Option.some.inj h ▸ .long long
  next =>
    split at h
    next reserved =>
      refine Option.some.inj h ▸ .reserved fun unreserved => ?_
      rw [hasReserved_eq_false.2 unreserved] at reserved
      cases reserved
    next => cases h

theorem BadEntry.fault (bad : BadEntry label guarded entry message) : entryFault? label guarded entry ≠ none := by
  rw [ne_eq, entryFault?_eq_none]
  rintro ⟨short, unreserved, short'⟩
  cases bad with
  | longName long => omega
  | reserved guard reserved => exact reserved (unreserved guard)
  | longText long => omega

theorem badEntry_of_fault (h : entryFault? label guarded entry = some message) :
    BadEntry label guarded entry message := by
  unfold entryFault? at h
  split at h
  next long => exact Option.some.inj h ▸ .longName long
  next =>
    split at h
    next guarded_reserved =>
      obtain ⟨guard, reserved⟩ := Bool.and_eq_true_iff.1 guarded_reserved
      rw [String.append_assoc] at h
      refine Option.some.inj h ▸ .reserved guard fun unreserved => ?_
      rw [hasReserved_eq_false.2 unreserved] at reserved
      cases reserved
    next =>
      split at h
      next long => exact Option.some.inj h ▸ .longText long
      next => cases h

/-! ## What is found -/

theorem mem_violations : v ∈ s.violations ↔ v.messages ≠ [] ∧
    (v = ⟨"name", s.nameFaults⟩ ∨ v = ⟨"description", s.descriptionFaults⟩ ∨ v = ⟨"tags", s.tagFaults⟩ ∨
      ∃ field label guarded a, s.Collection field label guarded a ∧
        v = ⟨field, (attributesFault? label guarded a).toList⟩) := by
  have collections : (∃ field label guarded a, s.Collection field label guarded a ∧
      v = ⟨field, (attributesFault? label guarded a).toList⟩) ↔
      v = ⟨"algorithm_metadata", s.parameterFaults⟩ ∨ v = ⟨"user_metadata", s.noteFaults⟩ := by
    constructor
    · rintro ⟨_, _, _, _, held, rfl⟩
      cases held with
      | parameters => exact .inl rfl
      | notes => exact .inr rfl
    · rintro (rfl | rfl)
      · exact ⟨_, _, _, _, .parameters, rfl⟩
      · exact ⟨_, _, _, _, .notes, rfl⟩
  rw [collections, violations, List.mem_filter, and_comm]
  simp

/-- Each field is looked at once. -/
theorem violations_once : (s.violations.map (·.field)).Nodup := by
  refine List.Nodup.sublist (List.filter_sublist.map _) ?_
  show ["name", "description", "tags", "algorithm_metadata", "user_metadata"].Nodup
  decide

theorem tagFaults_both (many : 30 < s.tags.length) (member : tag ∈ s.tags) (bad : BadTag tag message) :
    ∃ tag' ∈ s.tags, ∃ message', BadTag tag' message' ∧ s.tagFaults = ["Too many tags", message'] := by
  obtain ⟨message', found⟩ : ∃ message', s.tags.findSome? tagFault? = some message' := by
    rw [← Option.ne_none_iff_exists', ne_eq, List.findSome?_eq_none_iff]
    exact fun none => bad.fault (none tag member)
  obtain ⟨tag', member', fault⟩ := List.exists_of_findSome?_eq_some found
  refine ⟨tag', member', message', badTag_of_fault fault, ?_⟩
  rw [tagFaults, if_pos (show maxTags < s.tags.length from many), found]
  rfl

theorem breaks_of_attributesFault (held : s.Collection field label guarded a)
    (h : attributesFault? label guarded a = some message) : s.Breaks field message := by
  unfold attributesFault? at h
  split at h
  next many => exact Option.some.inj h ▸ .entries held many
  next =>
    obtain ⟨entry, member, fault⟩ := List.exists_of_findSome?_eq_some h
    exact .entry held member (badEntry_of_fault fault)

theorem breaks_of_tagFaults (h : message ∈ s.tagFaults) : s.Breaks "tags" message := by
  rcases List.mem_append.1 h with h | h
  · split at h
    next many => exact List.mem_singleton.1 h ▸ .tags many
    next => cases h
  · obtain ⟨tag, member, fault⟩ := List.exists_of_findSome?_eq_some (Option.mem_toList.1 h)
    exact .tag member (badTag_of_fault fault)

/-- A message is only found on a limit that is broken. -/
theorem violations_sound (h : v ∈ s.violations) (told : message ∈ v.messages) : s.Breaks v.field message := by
  obtain ⟨-, rfl | rfl | rfl | ⟨field, label, guarded, a, held, rfl⟩⟩ := mem_violations.1 h
  · simp only [nameFaults] at told
    split at told
    next => cases told
    next out =>
      refine List.mem_singleton.1 told ▸ .name ?_
      simp only [minName, maxText] at out
      omega
  · simp only [descriptionFaults] at told
    split at told
    next long =>
      obtain ⟨text, given, long⟩ := (Option.any_eq_true _ _).1 long
      exact List.mem_singleton.1 told ▸ .description given (of_decide_eq_true long)
    next => cases told
  · exact breaks_of_tagFaults told
  · exact breaks_of_attributesFault held (Option.mem_toList.1 told)

/-- A field that breaks a limit is found. -/
theorem violations_complete (h : s.Breaks field message) : ∃ v ∈ s.violations, v.field = field := by
  have collection : ∀ {field label guarded a}, s.Collection field label guarded a →
      attributesFault? label guarded a ≠ none → ∃ v ∈ s.violations, v.field = field := by
    intro field label guarded a held fault
    refine ⟨⟨field, (attributesFault? label guarded a).toList⟩, mem_violations.2 ⟨?_, ?_⟩, rfl⟩
    · rwa [ne_eq, Option.toList_eq_nil_iff]
    · exact .inr (.inr (.inr ⟨field, label, guarded, a, held, rfl⟩))
  cases h with
  | name out =>
    refine ⟨⟨"name", s.nameFaults⟩, mem_violations.2 ⟨?_, .inl rfl⟩, rfl⟩
    rw [ne_eq, nameFaults_eq_nil]
    omega
  | description given long =>
    refine ⟨⟨"description", s.descriptionFaults⟩, mem_violations.2 ⟨?_, .inr (.inl rfl)⟩, rfl⟩
    rw [ne_eq, descriptionFaults_eq_nil]
    exact fun short => absurd (short _ given) (by omega)
  | tags many =>
    refine ⟨⟨"tags", s.tagFaults⟩, mem_violations.2 ⟨?_, .inr (.inr (.inl rfl))⟩, rfl⟩
    rw [ne_eq, tagFaults_eq_nil]
    exact fun few => absurd few.1 (by omega)
  | tag member bad =>
    refine ⟨⟨"tags", s.tagFaults⟩, mem_violations.2 ⟨?_, .inr (.inr (.inl rfl))⟩, rfl⟩
    rw [ne_eq, tagFaults_eq_nil]
    exact fun good => bad.fault (tagFault?_eq_none.2 (good.2 _ member))
  | entries held many =>
    refine collection held ?_
    rw [ne_eq, attributesFault?_eq_none]
    exact fun few => absurd few.1 (by omega)
  | entry held member bad =>
    refine collection held ?_
    rw [ne_eq, attributesFault?_eq_none]
    exact fun good => bad.fault (entryFault?_eq_none.2 (good.2 _ member))

theorem mem_fields_violations : field ∈ s.violations.map (·.field) ↔ ∃ message, s.Breaks field message := by
  rw [List.mem_map]
  constructor
  · rintro ⟨v, held, rfl⟩
    obtain ⟨message, told⟩ := List.exists_mem_of_ne_nil _ (mem_violations.1 held).1
    exact ⟨message, violations_sound held told⟩
  · rintro ⟨message, broken⟩
    exact violations_complete broken

theorem validate_eq_error : s.validate = .error error ↔ s.violations ≠ [] ∧ error = Violation.report s.violations :=
  Violation.check_eq_error

/-! ## What is reported -/

/-- A refused secret is answered by a list of the fields that break a limit, each once and in alphabetical order,
with messages on limits that it breaks. The order in which the fields were found does not show. One field is
named by the error itself exactly if it alone breaks a limit. -/
theorem refusal_lists_broken_fields (refused : s.validate = .error error) (same : found.Perm s.violations) :
    error = Violation.report found ∧ ∃ (listed : List Violation) (named : Option String),
      error = .validation ("Validation failed: " ++ "; ".intercalate
        (listed.map fun v => v.field ++ ": " ++ ", ".intercalate v.messages)) named ∧
      (listed.map (·.field)).Pairwise (· < ·) ∧
      (∀ field, field ∈ listed.map (·.field) ↔ ∃ message, s.Breaks field message) ∧
      (∀ v ∈ listed, v.messages ≠ [] ∧ ∀ message ∈ v.messages, s.Breaks v.field message) ∧
      (30 < s.tags.length → (∃ tag ∈ s.tags, ¬(tag.length ≤ 30 ∧ Unreserved tag)) →
        ∃ tag ∈ s.tags, ∃ message, BadTag tag message ∧ ⟨"tags", ["Too many tags", message]⟩ ∈ listed) ∧
      ∀ field, named = some field ↔ ∀ other, (∃ message, s.Breaks other message) ↔ other = field := by
  obtain ⟨-, rfl⟩ := validate_eq_error.1 refused
  have listed : ∀ v, v ∈ Violation.inOrder s.violations ↔ v ∈ s.violations := fun v => Violation.mem_inOrder
  refine ⟨Violation.report_congr violations_once same.symm, Violation.inOrder s.violations,
    Violation.sole s.violations, rfl, Violation.inOrder_strict violations_once, fun field => ?_, fun v held => ?_,
    fun many => ?_, fun field => ?_⟩
  · rw [((Violation.inOrder_perm s.violations).map _).mem_iff, mem_fields_violations]
  · have found := (listed v).1 held
    exact ⟨(mem_violations.1 found).1, fun message told => violations_sound found told⟩
  · rintro ⟨tag, member, bad⟩
    rw [← tagFault?_eq_none, ← ne_eq, Option.ne_none_iff_exists'] at bad
    obtain ⟨message, fault⟩ := bad
    obtain ⟨tag', member', message', bad', both⟩ := tagFaults_both many member (badTag_of_fault fault)
    refine ⟨tag', member', message', bad', (listed _).2 (mem_violations.2 ⟨nofun, ?_⟩)⟩
    exact .inr (.inr (.inl (by rw [both])))
  · simp only [Violation.sole_eq_some violations_once, mem_fields_violations]

/-- A name that is too short and tags that are too many and bad: two fields, of which none is named alone. -/
theorem refusal_lists_broken_fields_of_two :
    let s : Secret := { Secret.named "k" with tags := List.replicate 31 "a:b" }
    let error : Error := .validation ("Validation failed: name: Name incorrect length; tags: Too many tags, Tag " ++
      "contains a reserved character (angled bracket, colon, ampersand, or vertical pipe)") none
    s.validate = .error error ∧ s.violations.reverse.Perm s.violations ∧
      error = Violation.report s.violations.reverse ∧
      ¬∃ field, ∀ other, (∃ message, s.Breaks other message) ↔ other = field := by
  intro s error
  have found : s.violations = [⟨"name", ["Name incorrect length"]⟩,
      ⟨"tags", ["Too many tags", "Tag " ++ reservedMessage]⟩] := by decide +kernel
  have sorted : Violation.inOrder s.violations = s.violations := by
    rw [found]
    exact List.mergeSort_of_pairwise (by decide +kernel)
  have refused : s.validate = .error error := by
    refine validate_eq_error.2 ⟨found ▸ nofun, ?_⟩
    rw [Violation.report_eq, sorted, found]
    decide +kernel
  obtain ⟨reported, _, named, same, -, -, -, -, sole⟩ :=
    refusal_lists_broken_fields refused s.violations.reverse_perm
  refine ⟨refused, s.violations.reverse_perm, reported, ?_⟩
  rintro ⟨field, only⟩
  have unnamed : named = none := (Error.validation.inj same).2.symm
  cases unnamed.symm.trans ((sole field).2 only)

end KeyCustody.Secret
