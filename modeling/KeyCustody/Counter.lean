import KeyCustody.Phase

/-!
# Counters

The events that are counted, the series that each belongs to, and what the series are for.
-/

namespace KeyCustody

inductive Counter where
  | operation (name : String) (succeeded : Bool)
  | rollback (operation : String)
  | rollbackFailure (operation : String)
  | retriesExhausted (operation : String)
  | transition (source target : Phase)
  | orphanedOrder
  deriving DecidableEq, Repr

namespace Counter

def series : Counter → String
  | operation .. => "keyward_operations_total"
  | rollback _ => "keyward_rollbacks_total"
  | rollbackFailure _ => "keyward_rollback_failures_total"
  | retriesExhausted _ => "keyward_retries_exhausted_total"
  | transition .. => "keyward_state_transitions_total"
  | orphanedOrder => "keyward_orphaned_orders_total"

/-- The labels within the series, in alphabetical order. -/
def labels : Counter → List (String × String)
  | operation name succeeded =>
    [("operation", name), ("status", if succeeded then "success" else "error")]
  | rollback name | rollbackFailure name | retriesExhausted name => [("operation", name)]
  | transition source target => [("from", source.name), ("to", target.name)]
  | orphanedOrder => []

def key (c : Counter) : String :=
  c.series ++ "\x7b" ++ ",".intercalate (c.labels.map fun l => l.1 ++ "=" ++ l.2) ++ "\x7d"

def unit : String := "count"

def descriptions : List (String × String) :=
  [("keyward_operations_total", "Orchestrator operations grouped by outcome"),
    ("keyward_rollbacks_total", "Ledger rollbacks executed"),
    ("keyward_rollback_failures_total", "Rollbacks halted by a failing compensation"),
    ("keyward_retries_exhausted_total", "Bounded retry loops that exhausted every attempt"),
    ("keyward_state_transitions_total", "Lifecycle state changes written to the metadata service"),
    ("keyward_orphaned_orders_total", "Backend orders left behind for the background sweep")]

end Counter

abbrev Tally := List (String × Nat)

namespace Tally

def add (c : Counter) : Tally → Tally
  | [] => [(c.key, 1)]
  | (key, n) :: rest => if key = c.key then (key, n + 1) :: rest else (key, n) :: add c rest

end Tally

end KeyCustody
