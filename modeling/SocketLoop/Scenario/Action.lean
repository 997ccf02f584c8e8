import SocketLoop.Address
import SocketLoop.Owner.Basic
import SocketLoop.Transport

/-! What a scenario does and what it answers. The same actions stand in the steps of a scenario and
in the scripts of its observers and services. -/
namespace SocketLoop.Scenario

/-- What the calls of a callback do: one list for each call in turn, then the same for all. -/
structure Script (α : Type) where
  calls : List (List α) := []
  otherwise : List α := []
deriving Inhabited

def Script.ofCall {α : Type} (script : Script α) (number : Nat) : List α :=
  script.calls[number]?.getD script.otherwise

structure ServicePlan (α : Type) where
  id : String := ""
  interests : KindSet := {}
  script : Script α := {}
  build : List α := []
  /-- The failure of the factory, if it fails: an error number or none. -/
  failure : Option (Option Errno) := none
deriving Inhabited

structure RunPlan where
  /-- The pass in which the loop is stopped; zero stops it before it starts. -/
  passes : Nat := 1
  onThread : Bool := false
  stopFirst : Bool := false
  settle : Bool := false
  interrupts : Nat := 0
  stopLater : Bool := false

/-- An action. Parts that are left out are taken from the notification being handled. -/
inductive Action where
  | add (sock : Option String) (kind : Option Kind) (obs : Option String)
  | remove (sock : Option String) (kind : Option Kind) (obs : Option String)
  | has (sock : Option String) (kind : Option Kind) (obs : Option String)
  | hasAny (sock : Option String)
  | removeElsewhere (sock : Option String) (kind : Option Kind) (obs : Option String)
  | query
  | stop
  | rerun
  | dropReactor
  | reactorText
  | forget (obs : Option String)
  | alive (obs : Option String)
  | same (left right : String)
  | observerTexts (obs : Option String)
  | notify (obs : Option String) (kind : Option Kind) (sock : Option String)
  | observer (id : String) (script : Script Action)
  | panic
  | mask (id : String) (readiness : Readiness)
  | cond (sock : Option String) (readiness : Readiness)
  | share (sock : Option String) (id : String) (separate : Bool)
  | close (sock : String)
  | equal (left right : String)
  | refs (sock : Option String)
  | attach (sock : Option String) (plan : ServicePlan Action)
  | enable (kind : Option Kind)
  | disable (kind : Option Kind)
  | finish
  | closing
  | context
  | fail (errno : Option Errno)
  | handle (sock : Option String) (call : HandleCall)
  | pair (left right : String)
  | listen (id name : String) (backlog : Int) (raw : Bool)
  | accept (listener id : String) (plain : Bool)
  | client (id name : String) (check : Bool)
  | connector (id name : String) (plan : ServicePlan Action) (onFailure : Bool)
  | connectorState (id : String)
  | connectorWait (id : String)
  | abort (id : String)
  | dropConnector (id : String)
  | connectorText (id : String)
  /-- Replaces the connecting socket; without a readiness by one that hung up quietly. -/
  | force (id : String) (readiness : Option Readiness)
  | acceptor (id name : String) (backlog : Int) (plans : List (ServicePlan Action))
  | acceptorState (id : String)
  | stopAcceptor (id : String)
  | dropAcceptor (id : String)
  | acceptorText (id : String)
  | unknown

instance : Inhabited Action := ⟨.unknown⟩

inductive Step where
  | act (limit : Option Nat) (action : Action)
  | run (limit : Option Nat) (plan : RunPlan)

inductive Reply where
  | nothing
  | ok
  | flag (value : Bool)
  | count (value : Nat)
  | word (text : String)
  | failed (failure : Failure)
  | panicked (message : String)
  | handle (reply : HandleReply)
  | status (sockets : Nat) (running : Bool)
  | context (label : String) (running : Bool)
  | address (address : Address)
  | peer (address : Address)
  | attempt (state : AttemptState) (errno : Option Errno)
  | acceptor (stopped : Bool) (accepted : Nat) (address : Address)
  | equality (equal : Bool)
  | both (left right : Reply)

instance : Inhabited Reply := ⟨.nothing⟩

inductive Told where
  | called (name : String) (kind : Kind) (code : Option Errno) (did : List Reply)
  | dropped (name : String)
  | built (did : List Reply)
  | failed (failure : Failure)

structure LogEntry where
  label : String
  slot : Nat
  told : Told

inductive Heading where
  | pass (asked ready : Nat)
  | idle (count : Nat)
  | shutdown

inductive Answer where
  | plain (reply : Reply) (log : List LogEntry)
  | run (result : Reply) (records : List (Heading × List LogEntry)) (interrupted : Bool)
  | settled (result : Reply) (log : List LogEntry)

end SocketLoop.Scenario
