import SocketLoop.Duration

/-! What a builder is asked to set on a fresh socket: buffer sizes, reuse of addresses, and the
options of a connection. -/
namespace SocketLoop

/-- Sizes of the kernel's buffers; none keeps the default of the system. -/
structure BufferPlan where
  receive : Option Nat := none
  send : Option Nat := none
deriving DecidableEq, Inhabited

def BufferPlan.both (size : Nat) : BufferPlan := ⟨some size, some size⟩

structure ReusePlan where
  address : Bool := true
  port : Bool := false
deriving DecidableEq, Inhabited

def ReusePlan.both : ReusePlan := ⟨true, true⟩

structure KeepalivePlan where
  idle : Duration := Duration.ofSeconds 60
  interval : Duration := Duration.ofSeconds 10
  probes : Nat := 5
deriving DecidableEq, Inhabited

/-- Options of a connection. All but the linger time concern internet sockets only. -/
structure TcpPlan where
  nodelay : Bool := true
  keepalive : Option KeepalivePlan := none
  linger : Option Duration := none
deriving DecidableEq, Inhabited

structure OptionPlan where
  reuse : Option ReusePlan := none
  tcp : TcpPlan := {}
  buffers : BufferPlan := {}
deriving DecidableEq, Inhabited

namespace OptionPlan

/-- What a listener sets unless told otherwise: its address may be reused. -/
def listener : OptionPlan := { reuse := some {} }

def connector : OptionPlan := {}

end OptionPlan

/-- The whole seconds of a span, at most the largest word of 32 bits. -/
def Duration.wholeSeconds (span : Duration) : Nat := min span.seconds.toNat 4294967295

end SocketLoop
