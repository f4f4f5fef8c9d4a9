import KeyCustody.Barbican.Order
import KeyCustody.Caller

/-!
# The Barbican API

What the engine needs from Barbican, which stores secrets and generates keys by order. Both are
known by a reference.
-/

namespace KeyCustody

open Barbican

structure Barbican (m : Type → Type) where
  /-- Stores material under a name and returns the reference to it. -/
  postSecret : Caller → String → Sealed → PayloadType → ExceptT Error m String
  /-- Orders a key and returns the reference to the order. -/
  postOrder : Caller → KeyRequest → ExceptT Error m String
  checkOrder : Caller → String → ExceptT Error m OrderStatus
  getPayload : Caller → String → PayloadType → ExceptT Error m Sealed
  deleteSecret : Caller → String → ExceptT Error m Unit
  deleteOrder : Caller → String → ExceptT Error m Unit

end KeyCustody
