import KeyCustody.Proofs.Settings.Leaf
import KeyCustody.Proofs.Settings.Variables
import KeyCustody.Settings.Load

/-!
# Layers

Variables in the environment stand over those of a file of variables, these over a file of settings, and that over the
defaults. Each leaf is taken from the highest layer that has it, whatever that layer says of other leaves.
-/

namespace KeyCustody.Settings

open Value

variable {file : List (String × Value)} {vars : Variables} {v below : Value} {part name : String} {s : Settings}

/-! ## Files -/

/-- Every section is known and a table, and no table has a name twice. -/
structure Tabular (file : List (String × Value)) : Prop where
  once : (file.map (·.1)).Nodup
  known : ∀ e ∈ file, e.1 ∈ Settings.fieldNames
  tables : ∀ e ∈ file, ∃ fields, e.2 = .table fields ∧ (fields.map (·.1)).Nodup ∧
    ∀ field ∈ fields, (field.2.entries.map (·.1)).Nodup

instance {p : List (String × Value) → Prop} [DecidablePred p] : Decidable (∃ fields, v = .table fields ∧ p fields) :=
  match v with
  | .table fields =>
    decidable_of_iff (p fields) ⟨fun h => ⟨fields, rfl, h⟩, fun ⟨_, same, h⟩ => Value.table.inj same ▸ h⟩
  | .nothing | .flag _ | .whole _ | .real _ | .text _ | .list _ => .isFalse nofun

instance : Decidable (Tabular file) :=
  decidable_of_iff ((file.map (·.1)).Nodup ∧ (∀ e ∈ file, e.1 ∈ Settings.fieldNames) ∧
      ∀ e ∈ file, ∃ fields, e.2 = .table fields ∧ (fields.map (·.1)).Nodup ∧
        ∀ field ∈ fields, (field.2.entries.map (·.1)).Nodup)
    ⟨fun ⟨once, known, tables⟩ => ⟨once, known, tables⟩, fun h => ⟨h.once, h.known, h.tables⟩⟩

theorem Tabular.tail {e : String × Value} (tabular : Tabular (e :: file)) : Tabular file :=
  ⟨(List.nodup_cons.1 tabular.once).2, fun e member => tabular.known e (List.mem_cons_of_mem _ member),
    fun e member => tabular.tables e (List.mem_cons_of_mem _ member)⟩

theorem putNamed_section (known : part ∈ Settings.fieldNames) : putNamed part v below = putAt [.name part] v below := by
  have key : IsKey part := (by decide : ∀ part ∈ Settings.fieldNames, IsKey part) part known
  rw [putNamed, path?_key key, Option.getD_some]

theorem fieldOf_file (tabular : Tabular file) (below : Value) :
    fieldOf part name (putAll file below) = laid name (entry part file).entries (fieldOf part name below) := by
  induction file generalizing below with
  | nil => rfl
  | cons e file ih =>
    obtain ⟨part', v⟩ := e
    obtain ⟨fields, ⟨⟩, once, -⟩ := tabular.tables _ List.mem_cons_self
    have first : putNamed part' (.table fields) below = putAt [.name part'] (.table fields) below :=
      putNamed_section (tabular.known _ List.mem_cons_self)
    rw [putAll, List.foldl_cons, ← putAll, ih tabular.tail, first, fieldOf_putAt_section once]
    by_cases same : part = part'
    · subst same
      -- The section does not come again, so that the rest of the file leaves it.
      have fresh := (List.nodup_cons.1 tabular.once).1
      rw [if_pos rfl, entry_cons_self, entry_missing fresh]
      rfl
    · rw [if_neg same, entry_cons_other same]

theorem sectioned_file (tabular : Tabular file) (sectioned : Sectioned below) : Sectioned (putAll file below) := by
  induction file generalizing below with
  | nil => exact sectioned
  | cons e file ih =>
    obtain ⟨part', v⟩ := e
    obtain ⟨fields, ⟨⟩, -, -⟩ := tabular.tables _ List.mem_cons_self
    rw [putAll, List.foldl_cons, putNamed_section (tabular.known _ List.mem_cons_self)]
    exact ih tabular.tail sectioned.putAt_section

/-! ## Variables -/

/-- The variables that name settings name leaves. -/
def Variables.OfLeaves (vars : Variables) : Prop :=
  ∀ e ∈ vars, (settingName? e.1).isSome → ∃ l : Leaf, e.1 = l.variableName

theorem putNamed_leaf (l : Leaf) :
    putNamed (l.part ++ "." ++ l.name) v below = putAt [.name l.part, .name l.name] v below := by
  rw [putNamed, l.path?_eq, Option.getD_some]

theorem above_value (text : String) : above (Variables.value text) below = Variables.value text := by
  rw [Variables.value]
  split
  next => rw [above]
  next =>
    split
    next => rw [above]
    next =>
      split
      next => rw [above]
      next => split <;> rw [above]

theorem settings_cons {e : String × String} (ofLeaves : Variables.OfLeaves (e :: vars)) (below : Value) :
    (Variables.settingName? e.1 = none ∧ putAll (Variables.settings (e :: vars)) below = putAll vars.settings below) ∨
    ∃ l : Leaf, e.1 = l.variableName ∧ putAll (Variables.settings (e :: vars)) below =
      putAll vars.settings (putAt [.name l.part, .name l.name] (Variables.value e.2) below) := by
  obtain ⟨key, text⟩ := e
  cases named : Variables.settingName? key with
  | none =>
    have dropped : Variables.settings ((key, text) :: vars) = vars.settings :=
      List.filterMap_cons_none (congrArg (Option.map (·, Variables.value text)) named)
    exact .inl ⟨rfl, by rw [dropped]⟩
  | some setting =>
    obtain ⟨l, rfl⟩ := ofLeaves _ List.mem_cons_self (named ▸ rfl)
    have kept : Variables.settings ((l.variableName, text) :: vars) =
        (l.part ++ "." ++ l.name, Variables.value text) :: vars.settings :=
      List.filterMap_cons_some (congrArg (Option.map (·, Variables.value text)) l.settingName?_variableName)
    refine .inr ⟨l, rfl, ?_⟩
    rw [kept, putAll, List.foldl_cons, putNamed_leaf, putAll]

theorem fieldOf_variables (once : (vars.map (·.1)).Nodup) (ofLeaves : vars.OfLeaves) (l : Leaf) (below : Value) :
    fieldOf l.part l.name (putAll vars.settings below) =
      ((vars.lookup l.variableName).map Variables.value).getD (fieldOf l.part l.name below) := by
  induction vars generalizing below with
  | nil => rfl
  | cons e vars ih =>
    obtain ⟨fresh, restOnce⟩ := List.nodup_cons.1 once
    have rest := ih restOnce fun e member => ofLeaves e (List.mem_cons_of_mem _ member)
    obtain ⟨key, text⟩ := e
    obtain ⟨other, step⟩ | ⟨l', rfl, step⟩ := settings_cons ofLeaves below
    · have skipped : (l.variableName == key) = false := beq_eq_false_iff_ne.2 fun same => by
        rw [← same, l.settingName?_variableName] at other
        cases other
      rw [step, rest, List.lookup_cons, skipped]
    · rw [step, rest, fieldOf_putAt_field]
      by_cases same : l.variableName = l'.variableName
      · rw [if_pos (Leaf.variableName_eq_iff.1 same), above_value, same, Keyed.lookup_missing fresh,
          List.lookup_cons_self]
        rfl
      · have skipped : (l.variableName == l'.variableName) = false := beq_eq_false_iff_ne.2 same
        rw [if_neg fun place => same (Leaf.variableName_eq_iff.2 place), List.lookup_cons, skipped]

theorem sectioned_variables (ofLeaves : vars.OfLeaves) (sectioned : Sectioned below) :
    Sectioned (putAll vars.settings below) := by
  induction vars generalizing below with
  | nil => exact sectioned
  | cons e vars ih =>
    have rest : Variables.OfLeaves vars := fun e member => ofLeaves e (List.mem_cons_of_mem _ member)
    obtain ⟨-, step⟩ | ⟨l, -, step⟩ := settings_cons ofLeaves below
    · rw [step]
      exact ih rest sectioned
    · rw [step]
      exact ih rest sectioned.putAt_field

/-! ## Layers -/

/-- The variables that the file of variables sets. -/
def Sources.assignments (src : Sources) : Variables :=
  src.variableFile.elim [] (VariableFile.assignments · src.environment)

/-- The entries of the file of settings, none if there is to be no file. -/
def Sources.entries? (src : Sources) : Option (List (String × Value)) :=
  match src.file with
  | none => some []
  | some (path, content) => content.bind (readFile? path)

/-- What a leaf is, with the entries of a file of settings, from the highest layer that has it. -/
def Sources.leaf? (src : Sources) (file : List (String × Value)) (l : Leaf) : Option l.Kind :=
  match src.environment.lookup l.variableName, src.assignments.lookup l.variableName,
    (entry l.part file).entries.lookup l.name with
  | some given, _, _ => l.read (Variables.value given)
  | none, some given, _ => l.read (Variables.value given)
  | none, none, some v => l.read v
  | none, none, none => some (l.get defaults)

variable {src : Sources}

theorem load_eq_ok_iff : load src = .ok s ↔
    (∃ file, src.entries? = some file ∧
      ofLayers? file (Variables.addMissing src.assignments src.environment) = some s) ∧ s.validate = .ok () := by
  have merged : (src.variableFile.elim src.environment fun text => VariableFile.load text src.environment) =
      Variables.addMissing src.assignments src.environment := by
    rw [Sources.assignments]
    cases src.variableFile with
    | none => rfl
    | some text => exact VariableFile.load_eq text src.environment
  rw [← Option.bind_eq_some_iff, load, merged]
  -- Settings that cannot be read are one error, whatever is wrong with them.
  split
  next unread =>
    replace unread : src.entries?.bind (ofLayers? · _) = none := unread
    rw [unread]
    constructor
    · intro h
      cases h
    · rintro ⟨⟨⟩, -⟩
  next s' read =>
    replace read : src.entries?.bind (ofLayers? · _) = some s' := read
    rw [read, Option.some.injEq]
    cases valid : s'.validate with
    | error e =>
      constructor
      · intro h
        cases h
      · rintro ⟨rfl, ok⟩
        cases valid.symm.trans ok
    | ok u =>
      constructor
      · intro h
        obtain rfl := Except.ok.inj h
        exact ⟨rfl, valid⟩
      · rintro ⟨rfl, -⟩
        rfl

theorem Tabular.once_field (tabular : Tabular file) (found : (entry part file).entries.lookup name = some v) :
    (v.entries.map (·.1)).Nodup := by
  cases there : file.lookup part with
  | none =>
    rw [entry, there] at found
    cases found
  | some sectionValue =>
    obtain ⟨fields, rfl, once, fieldsOnce⟩ := tabular.tables _ ((Keyed.lookup_eq_some_iff tabular.once).1 there)
    rw [entry, there, Option.getD_some, entries] at found
    exact fieldsOnce _ ((Keyed.lookup_eq_some_iff once).1 found)

theorem sectioned_defaults : Sectioned defaults.toValue := by
  refine ⟨_, rfl, fun part known => ?_⟩
  simp only [Settings.fieldNames, List.mem_cons, List.not_mem_nil, or_false] at known
  obtain rfl | rfl | rfl | rfl := known <;> exact ⟨_, rfl⟩

theorem ofLayers?_eq_some_iff (once : (src.environment.map (·.1)).Nodup) (ofLeaves : src.environment.OfLeaves)
    (assigned : src.assignments.OfLeaves) (tabular : Tabular file) :
    ofLayers? file (Variables.addMissing src.assignments src.environment) = some s ↔
      ∀ l, src.leaf? file l = some (l.get s) := by
  have both : (Variables.addMissing src.assignments src.environment).OfLeaves := fun e member =>
    (Variables.mem_addMissing member).elim (ofLeaves e) (assigned e)
  rw [ofLayers?, ofValue?_eq_some_iff (sectioned_variables both (sectioned_file tabular sectioned_defaults))]
  refine forall_congr' fun l => ?_
  rw [fieldOf_variables (Variables.nodup_addMissing once _) both, Variables.lookup_addMissing, fieldOf_file tabular,
    Sources.leaf?]
  cases src.environment.lookup l.variableName with
  | some text => rfl
  | none =>
    cases src.assignments.lookup l.variableName with
    | some text => rfl
    | none =>
      rw [laid]
      cases found : (entry l.part file).entries.lookup l.name with
      | some v => exact l.read_above_default (tabular.once_field found) ▸ Iff.rfl
      | none => exact l.read_default ▸ Iff.rfl

/-- Settings that load have each leaf from the highest layer that has it, and are valid; and so they load. -/
theorem loaded_leaf_by_leaf (once : (src.environment.map (·.1)).Nodup) (ofLeaves : src.environment.OfLeaves)
    (assigned : src.assignments.OfLeaves) (tabular : ∀ file, src.entries? = some file → Tabular file) :
    load src = .ok s ↔
      (∃ file, src.entries? = some file ∧ ∀ l, src.leaf? file l = some (l.get s)) ∧ s.validate = .ok () := by
  rw [load_eq_ok_iff]
  refine and_congr_left' (exists_congr fun file => and_congr_right fun read => ?_)
  exact ofLayers?_eq_some_iff once ofLeaves assigned (tabular file read)

def layered : Sources where
  file := some ("keyward.toml", some "[keystore]\nurl = \"http://a\"\nca_cert_path = \"/a\"\n")
  environment := [("HOME", "/"), ("KEYWARD__KEYSTORE__BACKEND", "memory")]
  variableFile := some "KEYWARD__KEYSTORE__BACKEND=barbican\nKEYWARD__KEYSTORE__URL=http://b\n"

def layeredSettings : Settings :=
  { defaults with keystore := { Keystore.defaults with kind := .memory, url := "http://b", caPath := some "/a" } }

theorem loaded_leaf_by_leaf_of_layered : load layered = .ok layeredSettings ∧
    ∃ file, layered.entries? = some file ∧ ∀ l, layered.leaf? file l = some (l.get layeredSettings) := by
  have assignments : layered.assignments =
      [("KEYWARD__KEYSTORE__BACKEND", "barbican"), ("KEYWARD__KEYSTORE__URL", "http://b")] := by decide +kernel
  have ofLeaves : layered.environment.OfLeaves := by
    simp only [layered, Variables.OfLeaves, List.forall_mem_cons]
    exact ⟨fun named => absurd named (by decide +kernel), fun _ => ⟨.keystoreKind, by decide +kernel⟩, nofun⟩
  have assigned : layered.assignments.OfLeaves := by
    simp only [assignments, Variables.OfLeaves, List.forall_mem_cons]
    exact ⟨fun _ => ⟨.keystoreKind, by decide +kernel⟩, fun _ => ⟨.keystoreUrl, by decide +kernel⟩, nofun⟩
  have tabular : ∀ file ∈ layered.entries?, Tabular file := by decide +kernel
  have loads : load layered = .ok layeredSettings := by decide +kernel
  exact ⟨loads, ((loaded_leaf_by_leaf (by decide) ofLeaves assigned tabular).1 loads).1⟩

end KeyCustody.Settings
