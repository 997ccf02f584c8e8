import SocketLoop.Kernel.Name

/-! Builders on their own: the options of a listener, or of a socket that connects to one. Options
are set before the socket is bound or connected, so a refused option is told first. -/
namespace SocketLoop.Scenario

inductive BuilderReply where
  | made (options : SocketOptions)
  | failed (fault : Fault)
  | panicked (message : String)
deriving DecidableEq

def freeAddress : Family → Address
  | .v4 => .v4 (V4.localhost 0)
  | .v6 => .v6 (V6.localhost 0)
  | .unix => .unix ⟨Bytes.ofText "scenario", true⟩

def tryListener (family : Family) (plan : OptionPlan) (backlog : Int) : BuilderReply :=
  match Kernel.buildListener {} plan (freeAddress family) backlog with
  | .error fault => .failed fault.hideAddress
  | .ok (descriptor, _, kernel) => .made (kernel.optionsOf descriptor)

def tryConnector (family : Family) (plan : OptionPlan) : BuilderReply :=
  match Kernel.buildListener {} .listener (freeAddress family) 128 with
  | .error fault => .panicked (Failure.panicOver fault)
  | .ok (_, address, kernel) =>
    match kernel.setUp family plan with
    | .error fault => .failed fault
    | .ok options =>
      match kernel.connect options address with
      | .error fault => .failed fault.hideAddress
      | .ok (descriptor, kernel) => .made (kernel.optionsOf descriptor)

end SocketLoop.Scenario
