import KeyCustody.Barbican.Rest
import KeyCustody.Proofs.Json.Record
import KeyCustody.Proofs.Text.Blank
import KeyCustody.Proofs.Text.Utf8
import Mathlib.Data.List.DropRight

/-!
# What an answer of Barbican comes to

Each operation promises one status. An answer with any other is an error that carries the status, whatever its body
holds; an answer with the promised status comes to what its body means.
-/

namespace KeyCustody.Barbican

open Http Json Rest Text

variable {m : Type → Type} {α : Type} {status : Nat} {body : List UInt8} {name : String}

/-! ## Addresses -/

/-- The text after the last slash of an address, or all of one without a slash. -/
def LastSegment (address ref : String) : Prop :=
  '/' ∉ ref.toList ∧ (address = ref ∨ ∃ before, address = before ++ "/" ++ ref)

theorem lastSegment_parseRef (address : String) : LastSegment address (parseRef address) := by
  let inSegment : Char → Bool := fun c => c ≠ '/'
  have ref : (parseRef address).toList = address.toList.rtakeWhile inSegment := String.toList_ofList
  have whole : address.toList.rdropWhile inSegment ++ (parseRef address).toList = address.toList := by
    rw [ref, List.rdropWhile_append_rtakeWhile]
  refine ⟨fun slash => ?_, ?_⟩
  · rw [ref] at slash
    cases (List.mem_rtakeWhile_imp slash : inSegment '/' = true)
  by_cases none : address.toList.rdropWhile inSegment = []
  · rw [none, List.nil_append] at whole
    exact .inl (String.toList_inj.1 whole.symm)
  · have last : (address.toList.rdropWhile inSegment).getLast none = '/' := by
      simpa [inSegment] using List.rdropWhile_last_not inSegment address.toList none
    rw [← List.dropLast_append_getLast none, last] at whole
    refine .inr ⟨String.ofList (address.toList.rdropWhile inSegment).dropLast, ?_⟩
    rw [← String.toList_inj, String.toList_append, String.toList_append, String.toList_ofList]
    exact whole.symm

theorem parseRef_eq {address ref : String} (h : LastSegment address ref) : parseRef address = ref := by
  obtain ⟨free, found⟩ := h
  have kept : ∀ c ∈ ref.toList.reverse, decide (c ≠ '/') = true := fun c member =>
    decide_eq_true fun slash => free (slash ▸ List.mem_reverse.1 member)
  rw [parseRef]
  rcases found with rfl | ⟨before, rfl⟩
  · rw [List.takeWhile_eq_self_iff.2 kept, List.reverse_reverse, String.ofList_toList]
  · have whole : (before ++ "/" ++ ref).toList.reverse = ref.toList.reverse ++ '/' :: before.toList.reverse := by simp
    rw [whole, List.takeWhile_append_of_pos kept, List.takeWhile_cons_of_neg (by decide), List.append_nil,
      List.reverse_reverse, String.ofList_toList]

theorem parseRef_eq_iff {address ref : String} : parseRef address = ref ↔ LastSegment address ref :=
  ⟨fun same => same ▸ lastSegment_parseRef address, parseRef_eq⟩

/-! ## What a body says about an error -/

/-- The body is a record with a title and a text under a name; what is missing is empty. -/
def Titled (name : String) (body : List UInt8) (title text : String) : Prop :=
  ∃ j given, readBytes? body = some j ∧ Gives ["title", name] 0 given j ∧ SaysOr (given "title") title ∧
    SaysOr (given name) text

/-- The text is trimmed, and the line breaks are removed from it, those of one spelling after those of the other. -/
def Plain (text plain : String) : Prop :=
  ∃ trimmed unbroken, Strips isBlank text.toList trimmed ∧ Removes "<br />".toList trimmed unbroken ∧
    Removes "<br>".toList unbroken plain.toList

/-- Barbican describes the error. -/
def Described (body : List UInt8) (text : String) : Prop :=
  ∃ title description, Titled "description" body title description ∧ description ≠ "" ∧
    text = title ++ ": " ++ description

/-- The middleware in front of Barbican reports the error. -/
def Reported (body : List UInt8) (text : String) : Prop :=
  ∃ title message plain, Titled "message" body title message ∧ (title ≠ "" ∨ message ≠ "") ∧ Plain message plain ∧
    text = title ++ ": " ++ plain

/-- A description counts before a report, and either before the text for errors without them. -/
def Explains (body : List UInt8) (text : String) : Prop :=
  Described body text ∨ (¬∃ other, Described body other) ∧ Reported body text ∨
    (¬∃ other, Described body other) ∧ (¬∃ other, Reported body other) ∧
      text = "Something went wrong.: Internal Server Error"

theorem titled?_eq_some {j : Json} {title text : String} (other : name ≠ "title") :
    titled? name j = some (title, text) ↔
      ∃ given, Gives ["title", name] 0 given j ∧ SaysOr (given "title") title ∧ SaysOr (given name) text := by
  have distinct : ["title", name].Nodup := by simpa using other.symm
  simp only [titled?, bind, Option.bind_eq_some_iff, field?_lenient]
  constructor
  · rintro ⟨fields, read, _, title, _, text, ⟨⟩⟩
    exact ⟨_, gives_of_record? distinct read, title, text⟩
  · rintro ⟨given, gives, title, text⟩
    obtain ⟨fields, read, found⟩ := record?_of_gives distinct gives
    refine ⟨fields, read, _, ?_, _, ?_, rfl⟩
    · rwa [found "title" (by simp)]
    · rwa [found name (by simp)]

theorem decode?_titled {title text : String} (other : name ≠ "title") :
    Reply.decode? (titled? name) body = some (title, text) ↔ Titled name body title text := by
  rw [Reply.decode?, Option.bind_eq_some_iff, Titled]
  simp only [titled?_eq_some other, exists_and_left]

theorem plain_plain (text : String) : Plain text (plain text) := by
  have trimmed : (trim text).toList = stripWhere isBlank text.toList := String.toList_ofList
  have cleaned : (plain text).toList =
      removeAll "<br>".toList (removeAll "<br />".toList (trim text).toList) := String.toList_ofList
  refine ⟨(trim text).toList, removeAll "<br />".toList (trim text).toList, ?_, removes_removeAll (by decide) _, ?_⟩
  · rw [trimmed]
    exact strips_stripWhere isBlank text.toList
  · rw [cleaned]
    exact removes_removeAll (by decide) _

theorem explains_explanation (body : List UInt8) : Explains body (explanation body) := by
  have described : ∀ e, (Reply.decode? (titled? "description") body).filter (fun e => !e.2.isEmpty) = some e ↔
      Titled "description" body e.1 e.2 ∧ e.2 ≠ "" := fun e => by
    rw [Option.filter_eq_some_iff, ← decode?_titled (by decide)]
    simp
  have reported : ∀ e,
      (Reply.decode? (titled? "message") body).filter (fun e => !e.1.isEmpty || !e.2.isEmpty) = some e ↔
      Titled "message" body e.1 e.2 ∧ (e.1 ≠ "" ∨ e.2 ≠ "") := fun e => by
    rw [Option.filter_eq_some_iff, ← decode?_titled (by decide)]
    simp
  unfold explanation
  dsimp only
  -- A description, else a report, else neither.
  split
  next title description found =>
    obtain ⟨titled, some⟩ := (described _).1 found
    exact .inl ⟨title, description, titled, some, rfl⟩
  next title message missing found =>
    obtain ⟨titled, some⟩ := (reported _).1 found
    refine .inr (.inl ⟨?_, title, message, plain message, titled, some, plain_plain message, rfl⟩)
    rintro ⟨_, title, description, titled, some, -⟩
    cases missing.symm.trans ((described (title, description)).2 ⟨titled, some⟩)
  next missing missing' =>
    refine .inr (.inr ⟨?_, ?_, rfl⟩)
    · rintro ⟨_, title, description, titled, some, -⟩
      cases missing.symm.trans ((described (title, description)).2 ⟨titled, some⟩)
    · rintro ⟨_, title, message, _, titled, some, -, -⟩
      cases missing'.symm.trans ((reported (title, message)).2 ⟨titled, some⟩)

/-! ## What a body answers -/

/-- The body is a record of these fields that gives an address under one of their names. -/
def Addressed (names : List String) (least : Nat) (name : String) (body : List UInt8) (address : String) : Prop :=
  ∃ j given, readBytes? body = some j ∧ Gives names least given j ∧ given name = some (.string address)

/-- The reference of a new resource, which is given by its address. -/
def NewRef (name : String) (body : List UInt8) (ref : String) : Prop :=
  ∃ address, Addressed [name] 1 name body address ∧ LastSegment address ref

/-- How far an order has come, by the text of its status and the address of its material. -/
inductive Stands (told : String) (address reason : Option String) : OrderStatus → Prop
  | active (a ref : String) (active : told = "ACTIVE") (given : address = some a) (last : LastSegment a ref)
    (some : ref ≠ "") : Stands told address reason (.active ref)
  | failed (error : told = "ERROR") : Stands told address reason (.failed reason)
  | pending (well : told ≠ "ERROR")
    (unready : told = "ACTIVE" → ∀ a, address = some a → LastSegment a "") : Stands told address reason .pending

def OrderAnswer (body : List UInt8) (order : OrderStatus) : Prop :=
  ∃ j given told address reason, readBytes? body = some j ∧
    Gives ["secret_ref", "status", "error_reason"] 2 given j ∧ Says? (given "secret_ref") address ∧
    given "status" = some (.string told) ∧ Says? (given "error_reason") reason ∧ Stands told address reason order

/-- Material is raw bytes in base64, or the text that the bytes are. -/
def Material (body : List UInt8) : PayloadType → Except Error Sealed → Prop
  | .bytes, x => x = .ok ⟨Base64.encode body⟩
  | .text, x => (∃ text : String, body = Utf8.encode text.toList ∧ x = .ok ⟨text⟩) ∨
      (¬∃ text : String, body = Utf8.encode text.toList) ∧
        x = .error (.backend "Payload is not valid UTF-8 text" none)

/-- What the body means, or an error if it means nothing. -/
def Decoded (means : α → Prop) (x : Except Error α) : Prop :=
  (∃ a, means a ∧ x = .ok a) ∨ (¬∃ a, means a) ∧ x = .error (.transport "error decoding response body")

theorem Decoded.means_of_ok {means : α → Prop} {a : α} (h : Decoded means (.ok a)) : means a := by
  obtain ⟨_, meant, same⟩ | ⟨-, same⟩ := h
  · cases same
    exact meant
  · cases same

theorem reply_json (status : Nat) {read : Json → Option α} {means : α → Prop}
    (meant : ∀ a, Reply.decode? read body = some a ↔ means a) :
    Decoded means (Reply.json read ⟨status, some body⟩) := by
  cases read : Reply.decode? read body with
  | some a =>
    refine .inl ⟨a, (meant a).1 read, ?_⟩
    simp only [Reply.json, Reply.bytes, bind, Except.bind, read]
    rfl
  | none =>
    refine .inr ⟨?_, ?_⟩
    · rintro ⟨a, means⟩
      cases read.symm.trans ((meant a).2 means)
    · simp only [Reply.json, Reply.bytes, bind, Except.bind, read]
      rfl

theorem decode?_newRef {ref : String} : Reply.decode? (newRef? name) body = some ref ↔ NewRef name body ref := by
  rw [Reply.decode?, Option.bind_eq_some_iff, NewRef]
  simp only [newRef?, bind, Option.bind_eq_some_iff, field?_required, asString?_eq_some]
  constructor
  · rintro ⟨j, value, fields, read, address, ⟨_, found, rfl⟩, last⟩
    exact ⟨address, ⟨j, _, value, gives_of_record? (List.nodup_singleton name) read, found⟩,
      parseRef_eq_iff.1 (Option.some.inj last)⟩
  · rintro ⟨address, ⟨j, given, value, gives, found⟩, last⟩
    obtain ⟨fields, read, same⟩ := record?_of_gives (List.nodup_singleton name) gives
    exact ⟨j, value, fields, read, address, ⟨_, (same name (by simp)).trans found, rfl⟩,
      congrArg some (parseRef_eq last)⟩

theorem usable_eq_some {address : Option String} {ref : String} :
    ((address.map parseRef).filter fun ref => !ref.isEmpty) = some ref ↔
      ∃ a, address = some a ∧ LastSegment a ref ∧ ref ≠ "" := by
  rw [Option.filter_eq_some_iff, Option.map_eq_some_iff]
  simp only [parseRef_eq_iff, Bool.not_eq_true', String.isEmpty_eq_false_iff, ← exists_and_right, and_assoc]

theorem stands_standing (told : String) (address reason : Option String) :
    Stands told address reason (standing told ((address.map parseRef).filter fun ref => !ref.isEmpty) reason) := by
  unfold standing
  split
  next ref usable =>
    obtain ⟨a, given, last, some⟩ := usable_eq_some.1 usable
    exact .active a ref rfl given last some
  next => exact .failed rfl
  next well unready =>
    refine .pending well fun active a given => ?_
    -- A reference that is not empty would have made the order active.
    by_contra other
    have some : parseRef a ≠ "" := fun empty => other (parseRef_eq_iff.1 empty)
    exact unready (parseRef a) active (usable_eq_some.2 ⟨a, given, lastSegment_parseRef a, some⟩)

theorem Stands.eq {told : String} {address reason : Option String} {order order' : OrderStatus}
    (h : Stands told address reason order) (h' : Stands told address reason order') : order = order' := by
  cases h with
  | active a ref active given last some =>
    cases h' with
    | active a' ref' _ given' last' _ =>
      cases given.symm.trans given'
      rw [← parseRef_eq last, parseRef_eq last']
    | failed error => exact absurd (active.symm.trans error) (by decide)
    | pending _ unready => exact absurd ((parseRef_eq last).symm.trans (parseRef_eq (unready active a given))) some
  | failed error =>
    cases h' with
    | active _ _ active => exact absurd (active.symm.trans error) (by decide)
    | failed => rfl
    | pending well => exact absurd error well
  | pending well unready =>
    cases h' with
    | active a _ active given last some =>
      exact absurd ((parseRef_eq last).symm.trans (parseRef_eq (unready active a given))) some
    | failed error => exact absurd error well
    | pending => rfl

theorem decode?_orderStatus {order : OrderStatus} :
    Reply.decode? orderStatus? body = some order ↔ OrderAnswer body order := by
  have distinct : ["secret_ref", "status", "error_reason"].Nodup := by decide
  rw [Reply.decode?, Option.bind_eq_some_iff, OrderAnswer]
  simp only [orderStatus?, bind, Option.bind_eq_some_iff, field?_required, field?_nullable, asString?_eq_some]
  constructor
  · rintro ⟨j, value, fields, read, address, ref, told, ⟨_, status, rfl⟩, reason, why, ⟨⟩⟩
    exact ⟨j, _, told, address, reason, value, gives_of_record? distinct read, ref, status, why,
      stands_standing told address reason⟩
  · rintro ⟨j, given, told, address, reason, value, gives, ref, status, why, stands⟩
    obtain ⟨fields, read, same⟩ := record?_of_gives distinct gives
    have said := (same "status" (by decide)).trans status
    refine ⟨j, value, fields, read, address, ?_, told, ⟨_, said, rfl⟩, reason, ?_, ?_⟩
    · rwa [same "secret_ref" (by decide)]
    · rwa [same "error_reason" (by decide)]
    · exact congrArg some ((stands_standing told address reason).eq stands)

theorem material_payloadOf (body : List UInt8) (type : PayloadType) : Material body type (payloadOf type body) := by
  cases type with
  | bytes => rfl
  | text =>
    unfold payloadOf
    dsimp only
    split
    next text decoded => exact .inl ⟨text, Utf8.decode?_eq_some.1 decoded, rfl⟩
    next unsound =>
      refine .inr ⟨?_, rfl⟩
      rintro ⟨text, own⟩
      cases unsound.symm.trans (Utf8.decode?_eq_some.2 own)

/-! ## The operations -/

inductive Operation where
  | postSecret (name : String) (payload : Sealed) (type : PayloadType)
  | postOrder (request : KeyRequest)
  | checkOrder (ref : String)
  | getPayload (ref : String) (type : PayloadType)
  | deleteSecret (ref : String)
  | deleteOrder (ref : String)

namespace Operation

def Result : Operation → Type
  | postSecret .. | postOrder _ => String
  | checkOrder _ => OrderStatus
  | getPayload .. => Sealed
  | deleteSecret _ | deleteOrder _ => Unit

def call (b : Barbican m) (caller : Caller) : (o : Operation) → ExceptT Error m o.Result
  | postSecret name payload type => b.postSecret caller name payload type
  | postOrder request => b.postOrder caller request
  | checkOrder ref => b.checkOrder caller ref
  | getPayload ref type => b.getPayload caller ref type
  | deleteSecret ref => b.deleteSecret caller ref
  | deleteOrder ref => b.deleteOrder caller ref

def draft (e : Endpoint) (caller : Caller) : Operation → Draft
  | postSecret name payload type =>
    ⟨.post, e.url secretsPath, [], Rest.headers caller, some (.object [("name", .string name),
      ("payload", .string payload.expose), ("payload_content_type", .string type.mime)])⟩
  | postOrder request => ⟨.post, e.url ordersPath, [], Rest.headers caller, some request.toJson⟩
  | checkOrder ref => ⟨.get, e.url (ordersPath ++ "/" ++ ref), [], Rest.headers caller ++ acceptJson, none⟩
  | getPayload ref type =>
    ⟨.get, e.url (secretsPath ++ "/" ++ ref ++ payloadPath), [], Rest.headers caller ++ [("accept", type.mime)], none⟩
  | deleteSecret ref => ⟨.delete, e.url (secretsPath ++ "/" ++ ref), [], Rest.headers caller, none⟩
  | deleteOrder ref => ⟨.delete, e.url (ordersPath ++ "/" ++ ref), [], Rest.headers caller ++ acceptJson, none⟩

/-- What an answer comes to. -/
def reading : (o : Operation) → Reply → Except Error o.Result
  | postSecret .. => postSecretReply
  | postOrder _ => postOrderReply
  | checkOrder _ => checkOrderReply
  | getPayload _ type => getPayloadReply type
  | deleteSecret _ => deleteSecretReply
  | deleteOrder _ => deleteOrderReply

def promised : Operation → Nat
  | postSecret .. => 201
  | postOrder _ => 202
  | checkOrder _ | getPayload .. => 200
  | deleteSecret _ | deleteOrder _ => 204

/-- The text of an error, of which the removal of an order has one alone. -/
def Tells (body : List UInt8) (text : String) : Operation → Prop
  | deleteOrder _ => text = "Unable to delete order"
  | _ => Explains body text

/-- What an answer with the promised status comes to. -/
def Fulfils (body : List UInt8) : (o : Operation) → Except Error o.Result → Prop
  | postSecret .., x => Decoded (NewRef "secret_ref" body) x
  | postOrder _, x => Decoded (NewRef "order_ref" body) x
  | checkOrder _, x => Decoded (OrderAnswer body) x
  | getPayload _ type, x => Material body type x
  | deleteSecret _, x | deleteOrder _, x => x = .ok ()

theorem call_overHttp [Monad m] (network : Network m) (e : Endpoint) (caller : Caller) (o : Operation) :
    o.call (overHttp network e) caller =
      exchange network (o.draft e caller) >>= fun r => ExceptT.mk (pure (o.reading r)) := by
  cases o <;> rfl

theorem reading_promised (body : List UInt8) (o : Operation) : o.Fulfils body (o.reading ⟨o.promised, some body⟩) := by
  cases o with
  | postSecret name payload type => exact reply_json 201 fun _ => decode?_newRef
  | postOrder request => exact reply_json 202 fun _ => decode?_newRef
  | checkOrder ref => exact reply_json 200 fun _ => decode?_orderStatus
  | getPayload ref type => exact material_payloadOf body type
  | deleteSecret ref => rfl
  | deleteOrder ref => rfl

theorem expect_other {promised : Nat} (other : status ≠ promised) :
    expect promised ⟨status, some body⟩ = .error (.backend (explanation body) (some status)) :=
  if_neg other

theorem expect_other_bind {promised : Nat} (other : status ≠ promised) (next : Unit → Except Error α) :
    expect promised ⟨status, some body⟩ >>= next = .error (.backend (explanation body) (some status)) := by
  rw [expect_other other]
  rfl

theorem reading_other (body : List UInt8) {o : Operation} (other : status ≠ o.promised) :
    ∃ text, o.reading ⟨status, some body⟩ = .error (.backend text (some status)) ∧ o.Tells body text := by
  cases o with
  | postSecret name payload type => exact ⟨_, expect_other_bind other _, explains_explanation body⟩
  | postOrder request => exact ⟨_, expect_other_bind other _, explains_explanation body⟩
  | checkOrder ref => exact ⟨_, expect_other_bind other _, explains_explanation body⟩
  | getPayload ref type => exact ⟨_, expect_other_bind other _, explains_explanation body⟩
  | deleteSecret ref => exact ⟨_, expect_other other, explains_explanation body⟩
  | deleteOrder ref => exact ⟨_, if_neg other, rfl⟩

theorem promised_of_ok {o : Operation} {a : o.Result} (answered : o.reading ⟨status, some body⟩ = .ok a) :
    status = o.promised := by
  by_contra other
  obtain ⟨text, failed, -⟩ := reading_other body other
  cases failed.symm.trans answered

theorem fulfils_error {o : Operation} {error : Error} (h : o.Fulfils body (.error error)) :
    (∃ message, error = .transport message) ∨ ∃ message, error = .backend message none := by
  have decoded : ∀ {α : Type} {means : α → Prop}, Decoded means (.error error) →
      ∃ message, error = .transport message := by
    rintro α means (⟨a, -, same⟩ | ⟨-, same⟩)
    · cases same
    · exact ⟨_, Except.error.inj same⟩
  cases o with
  | postSecret name payload type => exact .inl (decoded h)
  | postOrder request => exact .inl (decoded h)
  | checkOrder ref => exact .inl (decoded h)
  | getPayload ref type =>
    cases type with
    | bytes => cases h
    | text =>
      obtain ⟨_, _, same⟩ | ⟨-, same⟩ := h
      · cases same
      · exact .inr ⟨_, Except.error.inj same⟩
  | deleteSecret ref => cases h
  | deleteOrder ref => cases h

/-- What goes wrong with an answer of the promised status may go well the next time. -/
theorem retryable_of_promised {o : Operation} {error : Error}
    (failed : o.reading ⟨o.promised, some body⟩ = .error error) : error.isRetryable = true := by
  have fulfilled := reading_promised body o
  rw [failed] at fulfilled
  obtain ⟨message, rfl⟩ | ⟨message, rfl⟩ := fulfils_error fulfilled
  · rfl
  · rfl

theorem isRetryable_backend (text : String) (status : Nat) :
    (Error.backend text (some status)).isRetryable = true ↔ ¬(400 ≤ status ∧ status ≤ 499) := by
  simp only [Error.isRetryable, Option.any_some, Error.isClientStatus, Bool.not_eq_true', ← Bool.not_eq_true,
    Bool.and_eq_true, decide_eq_true_eq]

end Operation

end KeyCustody.Barbican
