import KeyCustody.Json.Reader
import KeyCustody.Json.Writer
import KeyCustody.Proofs.Text.Number
import KeyCustody.Proofs.Text.Utf8

/-!
# Written values read back

The text of a value is read as that value, as far as the value has a text of its own: a fraction has several. The
induction is on the value, and its claim is about the text before anything that can follow a value.
-/

namespace KeyCustody.Json

open Text

variable {c d : Char} {cs ds rest : List Char} {b : UInt8} {n fuel : Nat} {s : String} {j : Json}

/-! ## Bytes -/

/-- A text as it is read: its bytes, each as the character of its number. -/
def spelled (cs : List Char) : List Char := (Utf8.encode cs).map shown

theorem spelled_append : spelled (cs ++ ds) = spelled cs ++ spelled ds := by
  rw [spelled, Utf8.encode_append, List.map_append]
  rfl

theorem toNat_shown (b : UInt8) : (shown b).toNat = b.toNat := by
  have small := b.toNat_lt
  rw [shown, Char.ofNat, dif_pos (Or.inl (by omega))]
  rfl

theorem byte_shown (b : UInt8) : byte (shown b) = b := by
  rw [byte, toNat_shown, UInt8.ofNat_toNat]

theorem shown_byte (ascii : c.toNat < 128) : shown (UInt8.ofNat c.toNat) = c := by
  rw [shown, UInt8.toNat_ofNat', Nat.mod_eq_of_lt (by omega), Char.ofNat_toNat]

theorem spelled_cons (ascii : c.toNat < 128) : spelled (c :: cs) = c :: spelled cs := by
  rw [spelled, Utf8.encode_cons, Utf8.utf8EncodeChar_ascii ascii, List.singleton_append, List.map_cons,
    shown_byte ascii]
  rfl

theorem length_le_spelled (cs : List Char) : cs.length ≤ (spelled cs).length := by
  induction cs with
  | nil => exact Nat.le_refl 0
  | cons c cs ih =>
    have some : 0 < (String.utf8EncodeChar c).length := List.length_pos_iff.2 String.utf8EncodeChar_ne_nil
    rw [show c :: cs = [c] ++ cs from rfl, spelled_append, List.length_append, List.length_append]
    refine Nat.add_le_add ?_ ih
    simpa [spelled, Utf8.encode, Nat.one_le_iff_ne_zero, Nat.pos_iff_ne_zero] using some

/-! ## Strings -/

/-- What the pieces of a string spell when it is read. -/
def spell (ps : List Piece) : Option (List UInt8) := join? (fun c => [byte c]) String.utf8EncodeChar ps

/-- A part of a string that reads as pieces which spell the bytes, whatever stands after it. -/
def Spells (part : List Char) (bytes : List UInt8) : Prop :=
  ∃ qs : List Piece, (∀ rest, pieces? (part ++ rest) = (pieces? rest).map fun (ps, rest) => (qs ++ ps, rest)) ∧
    ∀ ps, spell (qs ++ ps) = (spell ps).map (bytes ++ ·)

theorem Spells.nil : Spells [] [] :=
  ⟨[], fun rest => by cases h : pieces? rest <;> simp [h], fun ps => by cases h : spell ps <;> simp [h]⟩

theorem Spells.append {part part' : List Char} {bytes bytes' : List UInt8} (h : Spells part bytes)
    (h' : Spells part' bytes') : Spells (part ++ part') (bytes ++ bytes') := by
  obtain ⟨qs, read, spelled⟩ := h
  obtain ⟨qs', read', spelled'⟩ := h'
  refine ⟨qs ++ qs', fun rest => ?_, fun ps => ?_⟩
  · rw [List.append_assoc, read, read', Option.map_map]
    exact congrArg (Option.map · _) (funext fun _ => by simp)
  · rw [List.append_assoc, spelled, spelled', Option.map_map]
    exact congrArg (Option.map · _) (funext fun _ => by simp)

theorem pieces?_plain (visible : 0x20 ≤ c.toNat) (quote : c ≠ '"') (escape : c ≠ '\\') :
    pieces? (c :: rest) = (pieces? rest).map fun (ps, rest) => (.char c :: ps, rest) := by
  rw [pieces?]
  · rw [if_neg (by omega)]
  · exact quote
  · rintro cs rfl
    exact absurd rfl escape
  · rintro d cs rfl
    exact absurd rfl escape

theorem spells_plain (visible : 0x20 ≤ c.toNat) (quote : c ≠ '"') (escape : c ≠ '\\') : Spells [c] [byte c] :=
  ⟨[.char c], fun _ => pieces?_plain visible quote escape, fun _ => rfl⟩

/-- A character that an escape of one letter stands for. -/
theorem spells_escaped (named : escaped? d = some c) (letter : d ≠ 'u') :
    Spells ['\\', d] [byte c] := by
  refine ⟨[.char c], fun rest => ?_, fun ps => rfl⟩
  show pieces? ('\\' :: d :: rest) = _
  rw [pieces?]
  · rw [named]
    cases pieces? rest <;> rfl
  · exact letter

theorem join?_unit {α : Type} {own named : Char → List α} (low : n < 0xD800) (ps : List Piece) :
    join? own named (.unit n :: ps) = (join? own named ps).map (named (Char.ofNat n) ++ ·) := by
  have high : ¬(0xD800 ≤ n ∧ n < 0xDC00) := by omega
  have lower : ¬(0xDC00 ≤ n ∧ n < 0xE000) := by omega
  have whole : ¬(0xD800 ≤ n ∧ n < 0xE000) := by omega
  cases ps with
  | nil => simp only [join?, whole, if_false]
  | cons p ps =>
    cases p with
    | char c => simp only [join?, whole, if_false]
    | unit m => simp only [join?, high, lower, if_false]

theorem hexDigit?_hexDigit (h : n < 16) : hexDigit? (hexDigit n) = some n := by
  have all : ∀ n < 16, hexDigit? (hexDigit n) = some n := by decide
  exact all n h

theorem spells_control (control : c.toNat < 0x20) :
    Spells ['\\', 'u', '0', '0', hexDigit (c.toNat / 16), hexDigit (c.toNat % 16)] (String.utf8EncodeChar c) := by
  refine ⟨[.unit c.toNat], fun rest => ?_, fun ps => ?_⟩
  · have digits : hex4? ('0' :: '0' :: hexDigit (c.toNat / 16) :: hexDigit (c.toNat % 16) :: rest) =
        some (c.toNat, rest) := by
      have zero : hexDigit? '0' = some 0 := rfl
      have value : (0 * 16 + 0) * 256 + (c.toNat / 16 * 16 + c.toNat % 16) = c.toNat := by omega
      simp only [hex4?, zero, hexDigit?_hexDigit (show c.toNat / 16 < 16 by omega),
        hexDigit?_hexDigit (show c.toNat % 16 < 16 by omega), bind, Option.bind, value]
    show pieces? ('\\' :: 'u' :: '0' :: '0' :: _ :: _ :: rest) = _
    rw [pieces?]
    split
    next found =>
      cases digits.symm.trans found
      rfl
    next missing => cases digits.symm.trans missing
  · exact (join?_unit (by omega) ps).trans (by rw [Char.ofNat_toNat]; rfl)

/-- Bytes outside ASCII stand for themselves. -/
theorem spells_high {bytes : List UInt8} (high : ∀ b ∈ bytes, 128 ≤ b.toNat) : Spells (bytes.map shown) bytes := by
  induction bytes with
  | nil => exact .nil
  | cons b bytes ih =>
    obtain ⟨first, others⟩ := List.forall_mem_cons.1 high
    have toNat := toNat_shown b
    have apart : ∀ c : Char, c.toNat < 128 → shown b ≠ c := by
      rintro c ascii rfl
      omega
    have one := spells_plain (by omega) (apart '"' (by decide)) (apart '\\' (by decide))
    rw [byte_shown] at one
    exact one.append (ih others)

/-- The characters that have an escape of one letter, and the letters. -/
def shortcuts : List (Char × Char) :=
  [('"', '"'), ('\\', '\\'), (Char.ofNat 8, 'b'), (Char.ofNat 12, 'f'), ('\n', 'n'), ('\r', 'r'), ('\t', 't')]

theorem escape_shortcut : ∀ e ∈ shortcuts, escape e.1 = ['\\', e.2] ∧ escaped? e.2 = some e.1 ∧ e.1.toNat < 128 ∧
    e.2.toNat < 128 ∧ e.2 ≠ 'u' := by
  decide

theorem escape_other (h : c ∉ shortcuts.map (·.1)) : c ≠ '"' ∧ c ≠ '\\' ∧ escape c =
    if c.toNat < 0x20 then ['\\', 'u', '0', '0', hexDigit (c.toNat / 16), hexDigit (c.toNat % 16)] else [c] := by
  simp only [shortcuts, List.map_cons, List.map_nil, List.mem_cons, List.not_mem_nil, or_false, not_or] at h
  refine ⟨h.1, h.2.1, ?_⟩
  simp only [escape, h, if_false]

theorem spells_escape (c : Char) : Spells (spelled (escape c)) (String.utf8EncodeChar c) := by
  by_cases short : c ∈ shortcuts.map (·.1)
  · obtain ⟨e, known, rfl⟩ := List.mem_map.1 short
    obtain ⟨same, named, ascii, letter, other⟩ := escape_shortcut e known
    rw [same, spelled_cons (by decide), spelled_cons letter, Utf8.utf8EncodeChar_ascii ascii]
    exact spells_escaped named other
  obtain ⟨quote, backslash, same⟩ := escape_other short
  rw [same]
  split
  next control =>
    have ascii : ∀ n < 16, (hexDigit n).toNat < 128 := by decide
    rw [spelled_cons (by decide), spelled_cons (by decide), spelled_cons (by decide), spelled_cons (by decide),
      spelled_cons (ascii _ (by omega)), spelled_cons (ascii _ (by omega))]
    exact spells_control control
  next visible =>
    by_cases ascii : c.toNat < 128
    · rw [spelled_cons ascii, Utf8.utf8EncodeChar_ascii ascii]
      exact spells_plain (by omega) quote backslash
    · have own : spelled [c] = (String.utf8EncodeChar c).map shown := by simp [spelled, Utf8.encode]
      rw [own]
      exact spells_high fun b member => Utf8.high_of_mem_utf8EncodeChar (by omega) member

theorem spells_text (cs : List Char) : Spells (spelled (cs.flatMap escape)) (Utf8.encode cs) := by
  induction cs with
  | nil => exact .nil
  | cons c cs ih =>
    rw [List.flatMap_cons, spelled_append, Utf8.encode_cons]
    exact (spells_escape c).append ih

theorem string?_written (s : String) (rest : List Char) :
    string? (spelled (s.toList.flatMap escape ++ ['"']) ++ rest) = some (some s, rest) := by
  obtain ⟨qs, read, bytes⟩ := spells_text s.toList
  have closed : pieces? ('"' :: rest) = some ([], rest) := by rw [pieces?]
  have text : (spell qs).bind Utf8.decode? = some s := by
    have own := bytes []
    rw [List.append_nil, show spell [] = some [] from rfl, Option.map_some, List.append_nil] at own
    rw [own, Option.bind_some, Utf8.decode?_encode, String.ofList_toList]
  rw [spelled_append, spelled_cons (by decide), List.append_assoc]
  unfold string?
  rw [read, show spelled [] = [] from rfl, List.cons_append, List.nil_append, closed]
  show some ((spell (qs ++ [])).bind Utf8.decode?, rest) = _
  rw [List.append_nil, text]

/-! ## Numbers -/

/-- What stands here ends a value: the text is over, or a mark follows that only stands between or after values. -/
def Ends (cs : List Char) : Prop := ∀ c ∈ cs.head?, c = ',' ∨ c = ']' ∨ c = '}'

theorem Ends.stops (ends : Ends rest) : Stops rest := fun c head => by
  rcases ends c head with rfl | rfl | rfl <;> decide

/-- Only zero begins with a zero. -/
theorem toDigits_zero (h : Nat.toDigits 10 n = '0' :: ds) : ds = [] := by
  by_contra more
  have digits : ∀ c ∈ ds, c.isDigit = true := fun c member =>
    isDigit_toDigits n c (h ▸ List.mem_cons_of_mem '0' member)
  have small : n < 10 ^ ds.length := by
    have value := foldl_toDigits n
    rw [h, List.foldl_cons] at value
    exact value ▸ foldl_lt digits
  have short := (Nat.length_toDigits_le_iff (by decide) (List.length_pos_iff.2 more)).2 small
  rw [h, List.length_cons] at short
  omega

theorem integer?_written (n : Nat) (ends : Ends rest) :
    integer? (Nat.toDigits 10 n ++ rest) = some (Nat.toDigits 10 n, rest) := by
  have digits := isDigit_toDigits n
  cases written : Nat.toDigits 10 n with
  | nil => exact absurd written Nat.toDigits_ne_nil
  | cons d ds =>
    rw [written] at digits
    by_cases zero : d = '0'
    · subst zero
      obtain rfl := toDigits_zero written
      cases rest with
      | nil => rfl
      | cons c rest => simp [integer?, ends.stops c rfl]
    · have taken := takeWhile_digits digits ends.stops
      rw [List.cons_append] at taken ⊢
      unfold integer?
      split
      next same => exact absurd (List.cons.inj same).1 zero
      next =>
        rw [someDigits?, taken]
        simp

theorem fraction?_none (ends : Ends rest) : fraction? rest = some ([], rest) := by
  unfold fraction?
  split
  next => rcases ends '.' rfl with h | h | h <;> cases h
  next => rfl

theorem exponent?_none (ends : Ends rest) : exponent? rest = some ([], rest) := by
  unfold exponent?
  split
  next c cs =>
    have other : (c = 'e' || c = 'E') = false := by rcases ends c rfl with rfl | rfl | rfl <;> decide
    simp [other]
  next => rfl

/-- The digits of a number, after a minus sign or none. -/
theorem number?_digits (n : Nat) (ends : Ends rest) :
    number? (Nat.toDigits 10 n ++ rest) = some (.whole n, rest) := by
  have value := foldl_toDigits n
  have read := integer?_written n ends
  cases written : Nat.toDigits 10 n with
  | nil => exact absurd written Nat.toDigits_ne_nil
  | cons d ds =>
    have digit : d.isDigit = true := isDigit_toDigits n d (written ▸ List.mem_cons_self)
    have unsigned : d ≠ '-' := by rintro rfl; exact absurd digit (by decide)
    rw [written] at value read
    unfold number?
    split
    next found =>
      split at found
      next same => exact absurd (List.cons.inj same).1 unsigned
      next =>
        cases found
        simp only [bind, Option.bind, read, fraction?_none ends, exponent?_none ends, value]
        simp

theorem number?_minus (some : 0 < n) (ends : Ends rest) :
    number? ('-' :: Nat.toDigits 10 n ++ rest) = Option.some (.whole (-n), rest) := by
  have nonzero : decide (n = 0) = false := decide_eq_false (Nat.ne_of_gt some)
  simp only [number?, List.cons_append, bind, Option.bind, integer?_written n ends, fraction?_none ends,
    exponent?_none ends, foldl_toDigits]
  simp [nonzero]

theorem toString_cases (n : Int) : (∃ m : Nat, n = m ∧ (toString n).toList = Nat.toDigits 10 m) ∨
    ∃ m : Nat, 0 < m ∧ n = -m ∧ (toString n).toList = '-' :: Nat.toDigits 10 m := by
  cases n with
  | ofNat m =>
    refine .inl ⟨m, rfl, ?_⟩
    rw [show toString (Int.ofNat m) = toString m from rfl, Nat.toString_eq_ofList_toDigits, String.toList_ofList]
  | negSucc m =>
    refine .inr ⟨m + 1, Nat.succ_pos m, rfl, ?_⟩
    rw [show toString (Int.negSucc m) = "-" ++ toString (m + 1) from rfl, Nat.toString_eq_ofList_toDigits,
      String.toList_append, @String.toList_ofList (Nat.toDigits 10 (m + 1))]
    rfl

theorem number?_written (n : Int) (ends : Ends rest) :
    number? ((toString n).toList ++ rest) = some (.whole n, rest) := by
  rcases toString_cases n with ⟨m, rfl, written⟩ | ⟨m, some, rfl, written⟩
  · rw [written, number?_digits m ends]
  · rw [written, number?_minus some ends]

/-- What holds of the digits and of the minus sign holds of the characters of a number. -/
theorem toString_chars {p : Char → Prop} (digits : ∀ d < 10, p (Nat.digitChar d)) (minus : p '-') (n : Int) :
    ∀ c ∈ (toString n).toList, p c := by
  have unsigned : ∀ m, ∀ c ∈ Nat.toDigits 10 m, p c := fun m c member =>
    forall_isDigit digits (isDigit_toDigits m c member)
  rcases toString_cases n with ⟨m, -, written⟩ | ⟨m, -, -, written⟩
  · exact written ▸ unsigned m
  · exact written ▸ List.forall_mem_cons.2 ⟨minus, unsigned m⟩

theorem toString_ne_nil (n : Int) : (toString n).toList ≠ [] := by
  rcases toString_cases n with ⟨m, -, written⟩ | ⟨m, -, -, written⟩
  · exact written ▸ Nat.toDigits_ne_nil
  · exact written ▸ List.cons_ne_nil _ _

/-! ## Values -/

/-- A value whose text is its own: it has no fractions, and nothing in it that is only skipped. -/
inductive Definite : Json → Prop
  | null : Definite .null
  | bool (b : Bool) : Definite (.bool b)
  | whole (n : Int) : Definite (.number (.whole n))
  | string (s : String) : Definite (.string s)
  | array {items : List Json} (each : ∀ j ∈ items, Definite j) : Definite (.array items)
  | object {members : List (String × Json)} (each : ∀ m ∈ members, Definite m.2) : Definite (.object members)

/-- The value is read from its text, whatever may follow a value. -/
def ReadsBack (j : Json) : Prop :=
  ∀ fuel rest, Ends rest → (writeChars j).length ≤ fuel →
    value? fuel (spelled (writeChars j) ++ rest) = some (j, rest)

theorem skipSpace_cons (h : isSpace c = false) : skipSpace (c :: cs) = c :: cs := by
  rw [skipSpace, List.dropWhile_cons_of_neg (by rw [h]; decide)]

/-- Every value begins with a character that neither is a blank nor closes an array. -/
theorem writeChars_head (definite : Definite j) : ∃ c cs, writeChars j = c :: cs ∧ c.toNat < 128 ∧
    isSpace c = false ∧ c ≠ ']' := by
  cases definite with
  | null => exact ⟨_, _, rfl, by decide, by decide, by decide⟩
  | bool b => cases b <;> exact ⟨_, _, rfl, by decide, by decide, by decide⟩
  | whole n =>
    obtain ⟨c, cs, written⟩ := List.exists_cons_of_ne_nil (toString_ne_nil n)
    refine ⟨c, cs, written, ?_⟩
    exact toString_chars (p := fun c => c.toNat < 128 ∧ isSpace c = false ∧ c ≠ ']') (by decide) (by decide) n c
      (written ▸ List.mem_cons_self)
  | string s => exact ⟨_, _, rfl, by decide, by decide, by decide⟩
  | array each => exact ⟨_, _, rfl, by decide, by decide, by decide⟩
  | object each => exact ⟨_, _, rfl, by decide, by decide, by decide⟩

theorem spelled_ascii (ascii : ∀ c ∈ cs, c.toNat < 128) : spelled cs = cs := by
  induction cs with
  | nil => rfl
  | cons c cs ih =>
    obtain ⟨first, others⟩ := List.forall_mem_cons.1 ascii
    rw [spelled_cons first, ih others]

theorem readsBack_whole (n : Int) : ReadsBack (.number (.whole n)) := by
  intro fuel rest ends enough
  obtain ⟨c, cs, written⟩ := List.exists_cons_of_ne_nil (toString_ne_nil n)
  have ascii := toString_chars (p := fun c => c.toNat < 128) (by decide) (by decide) n
  obtain ⟨space, quote, bracket, brace, null, yes, no⟩ := toString_chars
    (p := fun c => isSpace c = false ∧ c ≠ '"' ∧ c ≠ '[' ∧ c ≠ '{' ∧ c ≠ 'n' ∧ c ≠ 't' ∧ c ≠ 'f')
    (by decide) (by decide) n c (written ▸ List.mem_cons_self)
  have read := number?_written n ends
  change (toString n).toList.length ≤ fuel at enough
  show value? fuel (spelled (toString n).toList ++ rest) = _
  rw [spelled_ascii ascii, written, List.cons_append]
  rw [written, List.cons_append] at read
  rw [written, List.length_cons] at enough
  obtain ⟨fuel, rfl⟩ := Nat.exists_eq_succ_of_ne_zero (show fuel ≠ 0 by omega)
  rw [value?, skipSpace_cons space]
  split
  next same => exact absurd (List.cons.inj same).1 quote
  next same => exact absurd (List.cons.inj same).1 bracket
  next same => exact absurd (List.cons.inj same).1 brace
  next same => exact absurd (List.cons.inj same).1 null
  next same => exact absurd (List.cons.inj same).1 yes
  next same => exact absurd (List.cons.inj same).1 no
  next =>
    rw [read]
    rfl

theorem readsBack_null : ReadsBack .null := by
  intro fuel rest ends enough
  change 4 ≤ fuel at enough
  obtain ⟨fuel, rfl⟩ := Nat.exists_eq_succ_of_ne_zero (show fuel ≠ 0 by omega)
  show value? (fuel + 1) ('n' :: 'u' :: 'l' :: 'l' :: rest) = _
  rw [value?, skipSpace_cons (by decide)]
  rfl

theorem readsBack_bool (b : Bool) : ReadsBack (.bool b) := by
  intro fuel rest ends enough
  cases b with
  | true =>
    change 4 ≤ fuel at enough
    obtain ⟨fuel, rfl⟩ := Nat.exists_eq_succ_of_ne_zero (show fuel ≠ 0 by omega)
    show value? (fuel + 1) ('t' :: 'r' :: 'u' :: 'e' :: rest) = _
    rw [value?, skipSpace_cons (by decide)]
    rfl
  | false =>
    change 5 ≤ fuel at enough
    obtain ⟨fuel, rfl⟩ := Nat.exists_eq_succ_of_ne_zero (show fuel ≠ 0 by omega)
    show value? (fuel + 1) ('f' :: 'a' :: 'l' :: 's' :: 'e' :: rest) = _
    rw [value?, skipSpace_cons (by decide)]
    rfl

theorem readsBack_string (s : String) : ReadsBack (.string s) := by
  intro fuel rest ends enough
  change _ + 1 ≤ fuel at enough
  obtain ⟨fuel, rfl⟩ := Nat.exists_eq_succ_of_ne_zero (show fuel ≠ 0 by omega)
  show value? (fuel + 1) (spelled ('"' :: (s.toList.flatMap escape ++ ['"'])) ++ rest) = _
  rw [spelled_cons (by decide), List.cons_append, value?, skipSpace_cons (by decide)]
  show (string? _).bind _ = _
  rw [string?_written]
  rfl

theorem ends_comma : Ends (',' :: cs) := by
  rintro c ⟨⟩
  exact .inl rfl

theorem ends_bracket : Ends (']' :: cs) := by
  rintro c ⟨⟩
  exact .inr (.inl rfl)

theorem ends_brace : Ends ('}' :: cs) := by
  rintro c ⟨⟩
  exact .inr (.inr rfl)

theorem items?_last (read : value? fuel cs = some (j, ']' :: rest)) :
    items? (fuel + 1) cs = some ([j], rest) := by
  rw [items?, read]
  rfl

theorem items?_more {items : List Json} (read : value? fuel cs = some (j, ',' :: ds))
    (more : items? fuel ds = some (items, rest)) : items? (fuel + 1) cs = some (j :: items, rest) := by
  rw [items?, read]
  show (items? fuel ds).bind _ = _
  rw [more]
  rfl

theorem items?_written {items : List Json} (some : items ≠ []) (each : ∀ j ∈ items, ReadsBack j)
    (rest : List Char) (enough : (writeItems items).length ≤ fuel) :
    items? fuel (spelled (writeItems items) ++ rest) = Option.some (items, rest) := by
  induction items generalizing fuel with
  | nil => exact absurd rfl some
  | cons item items ih =>
    obtain ⟨first, others⟩ := List.forall_mem_cons.1 each
    cases items with
    | nil =>
      rw [writeItems, List.length_append, List.length_singleton] at enough
      obtain ⟨fuel, rfl⟩ := Nat.exists_eq_succ_of_ne_zero (show fuel ≠ 0 by omega)
      rw [writeItems, spelled_append, List.append_assoc]
      exact items?_last (first fuel _ ends_bracket (by omega))
    | cons next items =>
      have written : writeItems (item :: next :: items) = writeChars item ++ ',' :: writeItems (next :: items) := by
        rw [writeItems]
        exact List.cons_ne_nil _ _
      rw [written, List.length_append, List.length_cons] at enough
      obtain ⟨fuel, rfl⟩ := Nat.exists_eq_succ_of_ne_zero (show fuel ≠ 0 by omega)
      rw [written, spelled_append, spelled_cons (by decide), List.append_assoc]
      exact items?_more (first fuel _ ends_comma (by omega)) (ih (List.cons_ne_nil _ _) others (by omega))

theorem members?_last {name : String} (named : string? cs = some (some name, ':' :: ds))
    (read : value? fuel ds = some (j, '}' :: rest)) :
    members? (fuel + 1) ('"' :: cs) = some (some [(name, j)], rest) := by
  rw [members?, skipSpace_cons (by decide)]
  show (string? cs).bind _ = _
  rw [named]
  show (value? fuel ds).bind _ = _
  rw [read]
  rfl

theorem members?_more {name : String} {members : List (String × Json)} {es : List Char}
    (named : string? cs = some (some name, ':' :: ds)) (read : value? fuel ds = some (j, ',' :: es))
    (more : members? fuel es = some (some members, rest)) :
    members? (fuel + 1) ('"' :: cs) = some (some ((name, j) :: members), rest) := by
  rw [members?, skipSpace_cons (by decide)]
  show (string? cs).bind _ = _
  rw [named]
  show (value? fuel ds).bind _ = _
  rw [read]
  show (members? fuel es).bind _ = _
  rw [more]
  rfl

/-- A member as it is read: the name up to its closing quote, and what follows the colon. -/
theorem spelled_member (name : String) : spelled (writeString name ++ ':' :: (cs ++ ds)) ++ rest =
    '"' :: (spelled (name.toList.flatMap escape ++ ['"']) ++ ':' :: (spelled cs ++ (spelled ds ++ rest))) := by
  rw [spelled_append, spelled_cons (by decide), @spelled_append cs ds, List.append_assoc, List.cons_append,
    List.append_assoc]
  show spelled ('"' :: (name.toList.flatMap escape ++ ['"'])) ++ _ = _
  rw [spelled_cons (by decide), List.cons_append]

theorem members?_written {members : List (String × Json)} (some : members ≠ [])
    (each : ∀ m ∈ members, ReadsBack m.2) (rest : List Char) (enough : (writeMembers members).length ≤ fuel) :
    members? fuel (spelled (writeMembers members) ++ rest) = Option.some (Option.some members, rest) := by
  induction members generalizing fuel with
  | nil => exact absurd rfl some
  | cons m members ih =>
    obtain ⟨name, value⟩ := m
    obtain ⟨first, others⟩ := List.forall_mem_cons.1 each
    change ReadsBack value at first
    cases members with
    | nil =>
      have written : writeMembers [(name, value)] = writeString name ++ ':' :: (writeChars value ++ ['}']) := by
        rw [writeMembers, List.append_assoc, List.cons_append]
      rw [written, List.length_append, List.length_cons, List.length_append] at enough
      obtain ⟨fuel, rfl⟩ := Nat.exists_eq_succ_of_ne_zero (show fuel ≠ 0 by omega)
      rw [written, spelled_member]
      exact members?_last (string?_written name _) (first fuel _ ends_brace (by omega))
    | cons next members =>
      have written : writeMembers ((name, value) :: next :: members) =
          writeString name ++ ':' :: (writeChars value ++ ',' :: writeMembers (next :: members)) := by
        rw [writeMembers, List.append_assoc, List.cons_append]
        exact List.cons_ne_nil _ _
      rw [written, List.length_append, List.length_cons, List.length_append, List.length_cons] at enough
      obtain ⟨fuel, rfl⟩ := Nat.exists_eq_succ_of_ne_zero (show fuel ≠ 0 by omega)
      have later := ih (List.cons_ne_nil _ _) others (show _ ≤ fuel by omega)
      rw [written, spelled_member, spelled_cons (by decide), List.cons_append]
      exact members?_more (string?_written name _) (first fuel _ ends_comma (by omega)) later

theorem writeItems_cons (j : Json) (items : List Json) : ∃ cs, writeItems (j :: items) = writeChars j ++ cs := by
  cases items with
  | nil => exact ⟨_, rfl⟩
  | cons next items => exact ⟨_, by rw [writeItems]; exact List.cons_ne_nil _ _⟩

theorem writeMembers_cons (m : String × Json) (members : List (String × Json)) :
    ∃ cs, writeMembers (m :: members) = '"' :: cs := by
  cases members with
  | nil => exact ⟨_, rfl⟩
  | cons next members => exact ⟨_, by rw [writeMembers]; exacts [rfl, List.cons_ne_nil _ _]⟩

theorem readsBack_array {items : List Json} (definite : ∀ j ∈ items, Definite j) (each : ∀ j ∈ items, ReadsBack j) :
    ReadsBack (.array items) := by
  intro fuel rest ends enough
  rw [writeChars, List.length_cons] at enough
  obtain ⟨fuel, rfl⟩ := Nat.exists_eq_succ_of_ne_zero (show fuel ≠ 0 by omega)
  rw [writeChars, spelled_cons (by decide), List.cons_append, value?, skipSpace_cons (by decide)]
  cases items with
  | nil => rfl
  | cons item items =>
    obtain ⟨c, cs, head, ascii, space, bracket⟩ := writeChars_head (definite item List.mem_cons_self)
    obtain ⟨ds, written⟩ := writeItems_cons item items
    have read := items?_written (List.cons_ne_nil item items) each rest (show _ ≤ fuel by omega)
    rw [written, head, List.cons_append, spelled_cons ascii, List.cons_append] at read ⊢
    simp only
    rw [skipSpace_cons space]
    split
    next same => exact absurd (List.cons.inj same).1 bracket
    next =>
      rw [read]
      rfl

theorem readsBack_object {members : List (String × Json)} (each : ∀ m ∈ members, ReadsBack m.2) :
    ReadsBack (.object members) := by
  intro fuel rest ends enough
  rw [writeChars, List.length_cons] at enough
  obtain ⟨fuel, rfl⟩ := Nat.exists_eq_succ_of_ne_zero (show fuel ≠ 0 by omega)
  rw [writeChars, spelled_cons (by decide), List.cons_append, value?, skipSpace_cons (by decide)]
  cases members with
  | nil => rfl
  | cons m members =>
    obtain ⟨cs, written⟩ := writeMembers_cons m members
    have read := members?_written (List.cons_ne_nil m members) each rest (show _ ≤ fuel by omega)
    rw [written, spelled_cons (by decide), List.cons_append] at read ⊢
    show (members? fuel _).map _ = _
    rw [read]
    rfl

theorem readsBack_of_definite (definite : Definite j) : ReadsBack j := by
  induction definite with
  | null => exact readsBack_null
  | bool b => exact readsBack_bool b
  | whole n => exact readsBack_whole n
  | string s => exact readsBack_string s
  | array definite each => exact readsBack_array definite each
  | object _ each => exact readsBack_object each

/-- A written value reads back, if it has no fractions and nothing in it that is only skipped. -/
theorem read?_write (definite : Definite j) : read? (write j) = some j := by
  have enough := length_le_spelled (writeChars j)
  rw [spelled, List.length_map] at enough
  have read := readsBack_of_definite definite (2 * (Utf8.encode (writeChars j)).length + 1) [] nofun (by omega)
  rw [List.append_nil, spelled] at read
  rw [read?, write, String.toList_ofList, readBytes?, read]
  rfl

end KeyCustody.Json
