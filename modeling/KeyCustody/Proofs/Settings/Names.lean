import Mathlib.Data.List.TakeWhile
import KeyCustody.Settings.Variables

/-!
# Names of settings

Settings are named in small letters with single underscores. Such a name is a path by itself, two of them with a point
between them are the path to a field of a section, and the variable of that field leads to the same path.
-/

namespace KeyCustody.Settings

open Text

variable {c : Char} {cs ds : List Char} {part name : String}

/-- The characters of names of settings: small letters and the underscore. -/
def isLetter (c : Char) : Bool :=
  97 ≤ c.toNat && c.toNat ≤ 122 || c = '_'

theorem forall_isLetter {p : Char → Prop} (small : ∀ n < 26, p (Char.ofNat (97 + n))) (mark : p '_') (h : isLetter c) :
    p c := by
  simp only [isLetter, Bool.or_eq_true, Bool.and_eq_true, decide_eq_true_eq] at h
  obtain ⟨low, high⟩ | rfl := h
  · have own := small (c.toNat - 97) (by omega)
    rwa [Nat.add_sub_cancel' low, Char.ofNat_toNat] at own
  · exact mark

/-- No underscore stands beside another, or at the end. -/
def single : List Char → Bool
  | [] => true
  | ['_'] => false
  | '_' :: '_' :: _ => false
  | _ :: cs => single cs

structure IsKey (name : String) : Prop where
  filled : name.toList ≠ []
  letters : name.toList.all isLetter
  single : single name.toList

instance : Decidable (IsKey name) :=
  decidable_of_iff (name.toList ≠ [] ∧ name.toList.all isLetter ∧ single name.toList)
    ⟨fun ⟨filled, letters, alone⟩ => ⟨filled, letters, alone⟩, fun key => ⟨key.filled, key.letters, key.single⟩⟩

/-! ## Paths -/

theorem IsKey.isNameChar (key : IsKey name) : ∀ c ∈ name.toList, Value.isNameChar c = true := fun c member =>
  forall_isLetter (p := fun c => Value.isNameChar c = true) (by decide) (by decide)
    (List.all_eq_true.1 key.letters c member)

namespace Value

theorem steps?_key {fuel : Nat} (key : IsKey name) : steps? (fuel + 1) ('.' :: name.toList) = some [.name name] := by
  have whole : name.toList.takeWhile isNameChar = name.toList := List.takeWhile_eq_self_iff.2 key.isNameChar
  have filled : name.toList.isEmpty = false := List.isEmpty_eq_false_iff.2 key.filled
  simp only [steps?, whole, filled, List.drop_length, String.ofList_toList]
  cases fuel <;> rfl

theorem path?_key (key : IsKey name) : path? name = some [.name name] := by
  have whole : name.toList.takeWhile isNameChar = name.toList := List.takeWhile_eq_self_iff.2 key.isNameChar
  have filled : name.toList.isEmpty = false := List.isEmpty_eq_false_iff.2 key.filled
  simp only [path?, whole, filled, List.drop_length, String.ofList_toList]
  cases name.toList.length <;> rfl

theorem path?_field (partKey : IsKey part) (key : IsKey name) :
    path? (part ++ "." ++ name) = some [.name part, .name name] := by
  have chars : (part ++ "." ++ name).toList = part.toList ++ '.' :: name.toList := by simp
  have first : (part.toList ++ '.' :: name.toList).takeWhile isNameChar = part.toList := by
    rw [List.takeWhile_append_of_pos partKey.isNameChar, List.takeWhile_cons_of_neg (by decide), List.append_nil]
  have filled : part.toList.isEmpty = false := List.isEmpty_eq_false_iff.2 partKey.filled
  have long : (part.toList ++ '.' :: name.toList).length = part.toList.length + name.toList.length + 1 := by
    simp [Nat.add_assoc]
  rw [path?, chars]
  simp only [first, filled, List.drop_left, long, steps?_key key, String.ofList_toList]
  rfl

end Value

/-! ## Variables -/

namespace Variables

theorem dotted_single (once : single cs = true) : dotted (cs ++ '_' :: '_' :: ds) = cs ++ '.' :: dotted ds := by
  fun_induction single cs with
  | case1 => rfl
  | case2 => cases once
  | case3 => cases once
  | case4 c cs alone pair ih =>
    rw [List.cons_append, dotted, ih once]
    · rfl
    · rintro rest rfl starts
      cases cs with
      | nil => exact alone rfl rfl
      | cons d cs => exact pair cs rfl (congrArg (· :: cs) (List.cons.inj starts).1)

theorem dotted_self (once : single cs = true) : dotted cs = cs := by
  fun_induction single cs with
  | case1 => rfl
  | case2 => cases once
  | case3 => cases once
  | case4 c cs alone pair ih =>
    rw [dotted, ih once]
    rintro rest rfl rfl
    exact pair rest rfl rfl

theorem lower_upper (letters : cs.all isLetter) : (lower (String.ofList (cs.map Char.toUpper))).toList = cs := by
  rw [lower, String.toList_ofList, String.toList_ofList, List.map_map]
  refine (List.map_congr_left fun c member => ?_).trans cs.map_id
  exact forall_isLetter (p := fun c => (if c.toUpper.toNat = 0x212A then 'k' else c.toUpper.toLower) = c) (by decide)
    (by decide) (List.all_eq_true.1 letters c member)

/-- The name of the variable that sets a field of a section. -/
def nameOf (part name : String) : String :=
  "KEYWARD__" ++ part.toUpper ++ "__" ++ name.toUpper

theorem settingName?_nameOf (partKey : IsKey part) (key : IsKey name) :
    settingName? (nameOf part name) = some (part ++ "." ++ name) := by
  have chars : nameOf part name =
      String.ofList ((namespaceMark.toList ++ (part.toList ++ '_' :: '_' :: name.toList)).map Char.toUpper) := by
    apply String.toList_inj.1
    simp [nameOf, namespaceMark, String.toUpper, String.toList_map]
  have letters : (namespaceMark.toList ++ (part.toList ++ '_' :: '_' :: name.toList)).all isLetter := by
    simp only [List.all_append, List.all_cons, Bool.and_eq_true]
    exact ⟨by decide, partKey.letters, by decide, by decide, key.letters⟩
  have rest : after? namespaceMark.toList (lower (nameOf part name)).toList =
      some (part.toList ++ '_' :: '_' :: name.toList) := by
    rw [chars, lower_upper letters]
    exact after?_eq_some_iff.2 rfl
  have dots : dotted (part.toList ++ '_' :: '_' :: name.toList) = (part ++ "." ++ name).toList := by
    rw [dotted_single partKey.single, dotted_self key.single]
    simp
  rw [settingName?, rest, Option.map_some, dots, String.ofList_toList]

theorem nameOf_inj {part' name' : String} (partKey : IsKey part) (key : IsKey name) (partKey' : IsKey part')
    (key' : IsKey name') : nameOf part name = nameOf part' name' ↔ part = part' ∧ name = name' := by
  refine ⟨fun same => ?_, fun ⟨sections, fields⟩ => sections ▸ fields ▸ rfl⟩
  have names := settingName?_nameOf partKey key
  rw [same, settingName?_nameOf partKey' key', Option.some.injEq] at names
  have paths := Value.path?_field partKey key
  rw [← names, Value.path?_field partKey' key', Option.some.injEq] at paths
  simpa only [List.cons.injEq, Value.Step.name.injEq, and_true, eq_comm] using paths

end Variables

end KeyCustody.Settings
