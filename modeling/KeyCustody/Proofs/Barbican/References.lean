import KeyCustody.Proofs.Barbican.Replies
import KeyCustody.Proofs.Json.RoundTrip

/-!
# References to what Barbican holds

A reference is the last segment of the address that an answer gives, and the requests about what it refers to are
addressed with it. The address of an order's material is not used if it ends in a slash; that of a new resource is,
and the reference is empty then.
-/

namespace KeyCustody

open Text

/-! ## Segments -/

namespace Text

variable {sep : Char → Bool} {c : Char} {cs ds : List Char}

theorem splitWhere_ne_nil (sep : Char → Bool) (cs : List Char) : splitWhere sep cs ≠ [] := by
  cases cs with
  | nil => exact List.cons_ne_nil _ _
  | cons c cs =>
    unfold splitWhere
    split <;> exact List.cons_ne_nil _ _

theorem splitWhere_sep (h : sep c = true) : splitWhere sep (c :: cs) = [] :: splitWhere sep cs := by
  rw [splitWhere, h]

theorem splitWhere_other {part : List Char} {parts : List (List Char)} (h : sep c = false)
    (rest : splitWhere sep cs = part :: parts) : splitWhere sep (c :: cs) = (c :: part) :: parts := by
  rw [splitWhere, h, rest]

theorem splitWhere_append (h : sep c = true) :
    splitWhere sep (cs ++ c :: ds) = splitWhere sep cs ++ splitWhere sep ds := by
  induction cs with
  | nil => rw [List.nil_append, splitWhere_sep h]; rfl
  | cons d cs ih =>
    by_cases stop : sep d = true
    · rw [List.cons_append, splitWhere_sep stop, splitWhere_sep stop, ih, List.cons_append]
    · obtain ⟨part, parts, rest⟩ := List.exists_cons_of_ne_nil (splitWhere_ne_nil sep cs)
      rw [rest, List.cons_append] at ih
      rw [List.cons_append, splitWhere_other (Bool.eq_false_iff.2 stop) ih,
        splitWhere_other (Bool.eq_false_iff.2 stop) rest, List.cons_append]

theorem splitWhere_free (free : ∀ c ∈ cs, sep c = false) : splitWhere sep cs = [cs] := by
  induction cs with
  | nil => rfl
  | cons c cs ih =>
    obtain ⟨first, others⟩ := List.forall_mem_cons.1 free
    exact splitWhere_other first (ih others)

/-- What stands between the slashes of a text. -/
def segments (text : String) : List String := (splitWhere (· = '/') text.toList).map String.ofList

theorem segments_append (before after : String) :
    segments (before ++ "/" ++ after) = segments before ++ segments after := by
  have slash : (before ++ "/" ++ after).toList = before.toList ++ '/' :: after.toList := by simp
  rw [segments, slash, splitWhere_append (by decide), List.map_append]
  rfl

theorem segments_free {text : String} (free : '/' ∉ text.toList) : segments text = [text] := by
  have none : ∀ c ∈ text.toList, decide (c = '/') = false := fun c member => by
    refine decide_eq_false ?_
    rintro rfl
    exact free member
  rw [segments, splitWhere_free none, List.map_singleton, String.ofList_toList]

end Text

namespace Barbican

open Http Json Rest

variable {m : Type → Type} {ref address : String} {body : List UInt8} {status : Nat}

/-! ## References returned -/

theorem LastSegment.empty_iff (h : LastSegment address ref) :
    ref = "" ↔ address = "" ∨ ∃ before, address = before ++ "/" := by
  constructor
  · rintro rfl
    obtain ⟨-, same | ⟨before, same⟩⟩ := h
    · exact .inl same
    · exact .inr ⟨before, same.trans String.append_empty⟩
  · rintro ends
    have last : LastSegment address "" := by
      refine ⟨List.not_mem_nil, ends.imp_right ?_⟩
      rintro ⟨before, rfl⟩
      exact ⟨before, String.append_empty.symm⟩
    rw [← parseRef_eq h, parseRef_eq last]

theorem Addressed.eq {names : List String} {least : Nat} {name address' : String} (distinct : names.Nodup)
    (known : name ∈ names) (h : Addressed names least name body address)
    (h' : Addressed names least name body address') : address' = address := by
  obtain ⟨j, given, value, gives, found⟩ := h
  obtain ⟨j', given', value', gives', found'⟩ := h'
  cases value.symm.trans value'
  have same := gives.eq distinct gives' known
  rw [found, found'] at same
  cases same
  rfl

namespace Operation

/-- A reference that an operation returns. -/
def Returns : (o : Operation) → o.Result → String → Prop
  | postSecret .., a, ref | postOrder _, a, ref => a = ref
  | checkOrder _, a, ref => a = OrderStatus.active ref
  | _, _, _ => False

/-- The address that an answer gives. -/
def Addresses (body : List UInt8) (address : String) : Operation → Prop
  | postSecret .. => Addressed ["secret_ref"] 1 "secret_ref" body address
  | postOrder _ => Addressed ["order_ref"] 1 "order_ref" body address
  | checkOrder _ => Addressed ["secret_ref", "status", "error_reason"] 2 "secret_ref" body address
  | _ => False

theorem Addresses.eq {o : Operation} {address' : String} (h : o.Addresses body address)
    (h' : o.Addresses body address') : address' = address := by
  cases o with
  | postSecret | postOrder => exact Addressed.eq (List.nodup_singleton _) List.mem_cons_self h h'
  | checkOrder => exact Addressed.eq (by decide) List.mem_cons_self h h'
  | _ => exact h.elim

theorem fulfils_of_ok {o : Operation} {a : o.Result} (answered : o.reading ⟨status, some body⟩ = .ok a) :
    o.Fulfils body (.ok a) := by
  cases promised_of_ok answered
  exact answered ▸ o.reading_promised body

theorem addressed_of_returns {o : Operation} {a : o.Result} (answered : o.reading ⟨status, some body⟩ = .ok a)
    (returned : o.Returns a ref) : ∃ address, o.Addresses body address ∧ LastSegment address ref ∧
      ((∃ order, o = .checkOrder order) → ref ≠ "") := by
  have fulfilled := fulfils_of_ok answered
  cases o with
  | postSecret name payload type =>
    cases returned
    obtain ⟨address, addressed, last⟩ := Decoded.means_of_ok fulfilled
    exact ⟨address, addressed, last, nofun⟩
  | postOrder request =>
    cases returned
    obtain ⟨address, addressed, last⟩ := Decoded.means_of_ok fulfilled
    exact ⟨address, addressed, last, nofun⟩
  | checkOrder order =>
    cases returned
    obtain ⟨j, given, told, address, reason, value, gives, ref?, -, -, stands⟩ := Decoded.means_of_ok fulfilled
    cases stands with
    | active address _ _ same last some =>
      obtain ⟨other, -⟩ | ⟨s, said, found⟩ := ref?
      · cases same.symm.trans other
      · cases same.symm.trans said
        exact ⟨address, ⟨j, given, value, gives, found⟩, last, fun _ => some⟩
  | _ => exact returned.elim

/-- The segments that the address of a request adds to those of the service. -/
def target : Operation → List String
  | postSecret .. => ["v1", "secrets"]
  | postOrder _ => ["v1", "orders"]
  | checkOrder ref | deleteOrder ref => ["v1", "orders", ref]
  | getPayload ref _ => ["v1", "secrets", ref, "payload"]
  | deleteSecret ref => ["v1", "secrets", ref]

/-- The reference of what a request is about. -/
def subject? : Operation → Option String
  | postSecret .. | postOrder _ => none
  | checkOrder ref | getPayload ref _ | deleteSecret ref | deleteOrder ref => some ref

theorem segments_url {e : Endpoint} {path collection : String} (free : '/' ∉ collection.toList)
    (parts : path = "/" ++ "v1" ++ "/" ++ collection) :
    segments (e.url path) = segments e.base ++ ["v1", collection] := by
  have whole : e.url path = e.base ++ "/" ++ "v1" ++ "/" ++ collection := by
    simp only [Endpoint.url, parts, String.append_assoc]
  rw [whole, segments_append, segments_append, segments_free (show '/' ∉ "v1".toList by decide), segments_free free,
    List.append_assoc]
  rfl

theorem segments_resource (e : Endpoint) (path : String) (free : '/' ∉ ref.toList) :
    segments (e.url (path ++ "/" ++ ref)) = segments (e.url path) ++ [ref] := by
  have whole : e.url (path ++ "/" ++ ref) = e.url path ++ "/" ++ ref := by
    simp only [Endpoint.url, String.append_assoc]
  rw [whole, segments_append, segments_free free]

/-- A request about one resource has the reference as a segment of its address, after that of the collection. -/
theorem segments_draft (e : Endpoint) (caller : Caller) (o : Operation)
    (free : ∀ ref ∈ o.subject?, '/' ∉ ref.toList) :
    segments (o.draft e caller).url = segments e.base ++ o.target := by
  have secrets : segments (e.url secretsPath) = segments e.base ++ ["v1", "secrets"] :=
    segments_url (by decide) (by decide)
  have orders : segments (e.url ordersPath) = segments e.base ++ ["v1", "orders"] :=
    segments_url (by decide) (by decide)
  have order : ∀ ref : String, '/' ∉ ref.toList →
      segments (e.url (ordersPath ++ "/" ++ ref)) = segments e.base ++ ["v1", "orders", ref] := fun ref free => by
    rw [segments_resource e ordersPath free, orders, List.append_assoc]
    rfl
  cases o with
  | postSecret name payload type => exact secrets
  | postOrder request => exact orders
  | checkOrder ref => exact order ref (free ref rfl)
  | deleteOrder ref => exact order ref (free ref rfl)
  | deleteSecret ref =>
    show segments (e.url (secretsPath ++ "/" ++ ref)) = _
    rw [segments_resource e secretsPath (free ref rfl), secrets, List.append_assoc]
    rfl
  | getPayload ref type =>
    have whole : e.url (secretsPath ++ "/" ++ ref ++ payloadPath) =
        e.url (secretsPath ++ "/" ++ ref) ++ "/" ++ "payload" := by
      simp only [Endpoint.url, String.append_assoc]
      rfl
    show segments (e.url (secretsPath ++ "/" ++ ref ++ payloadPath)) = _
    rw [whole, segments_append, segments_resource e secretsPath (free ref rfl), secrets,
      segments_free (show '/' ∉ "payload".toList by decide), List.append_assoc, List.append_assoc]
    rfl

end Operation

end Barbican

end KeyCustody
