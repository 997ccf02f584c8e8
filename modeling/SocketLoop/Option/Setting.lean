import SocketLoop.Address
import SocketLoop.Failure
import SocketLoop.Option.Plan

/-! Single socket options, what the operating system makes of them, and the order in which a plan
sets them. A plan stops at the first option that is refused. -/
namespace SocketLoop

inductive Setting where
  | reuseAddress (on : Bool)
  | reusePort (on : Bool)
  | nodelay (on : Bool)
  | keepalive (on : Bool)
  | keepaliveIdle (seconds : Nat)
  | keepaliveInterval (seconds : Nat)
  | keepaliveCount (probes : Nat)
  | linger (seconds : Option Nat)
  | receiveBuffer (size : Nat)
  | sendBuffer (size : Nat)
deriving DecidableEq, Inhabited

namespace Setting

def name : Setting → String
  | reuseAddress _ => "SO_REUSEADDR"
  | reusePort _ => "SO_REUSEPORT"
  | nodelay _ => "TCP_NODELAY"
  | keepalive _ => "SO_KEEPALIVE"
  | keepaliveIdle _ => "TCP_KEEPIDLE"
  | keepaliveInterval _ => "TCP_KEEPINTVL"
  | keepaliveCount _ => "TCP_KEEPCNT"
  | linger _ => "SO_LINGER"
  | receiveBuffer _ => "SO_RCVBUF"
  | sendBuffer _ => "SO_SNDBUF"

def bufferSize : Setting → Option Nat
  | receiveBuffer size | sendBuffer size => some size
  | _ => none

def isInternet : Setting → Bool
  | nodelay _ | keepaliveIdle _ | keepaliveInterval _ | keepaliveCount _ => true
  | _ => false

end Setting

def clampInt32 (value : Nat) : Nat := min value maxInt32

structure SocketOptions where
  reuseAddress : Bool := false
  reusePort : Bool := false
  nodelay : Bool := false
  keepalive : Bool := false
  keepaliveIdle : Nat := 7200
  keepaliveInterval : Nat := 75
  keepaliveCount : Nat := 9
  /-- The seconds that closing waits; none closes at once. -/
  linger : Option Nat := none
  receiveBuffer : Option Nat := none
  sendBuffer : Option Nat := none
deriving DecidableEq, Inhabited

namespace SocketOptions

def set (options : SocketOptions) (family : Family) (setting : Setting) :
    Except Errno SocketOptions :=
  let within (value limit : Nat) (result : SocketOptions) : Except Errno SocketOptions :=
    if 1 ≤ value ∧ value ≤ limit then .ok result else .error Errno.invalid
  if setting.isInternet && !family.isInternet then .error Errno.notSupported
  else match setting with
    | .reuseAddress on => .ok { options with reuseAddress := on }
    | .reusePort on =>
      if on && !family.isInternet then .error Errno.notSupported
      else .ok { options with reusePort := on }
    | .nodelay on => .ok { options with nodelay := on }
    | .keepalive on => .ok { options with keepalive := on }
    | .keepaliveIdle seconds =>
      within (clampInt32 seconds) 32767 { options with keepaliveIdle := clampInt32 seconds }
    | .keepaliveInterval seconds =>
      within (clampInt32 seconds) 32767 { options with keepaliveInterval := clampInt32 seconds }
    | .keepaliveCount probes =>
      within (clampInt32 probes) 127 { options with keepaliveCount := clampInt32 probes }
    | .linger seconds => .ok { options with linger := seconds.map clampInt32 }
    | .receiveBuffer size => .ok { options with receiveBuffer := some (clampInt32 size) }
    | .sendBuffer size => .ok { options with sendBuffer := some (clampInt32 size) }

/-- Sets one option; a refusal is a fault that names the option. -/
def request (options : SocketOptions) (family : Family) (setting : Setting) :
    Except Fault SocketOptions :=
  match options.set family setting with
  | .ok changed => .ok changed
  | .error errno => .error (.setOption errno setting.name)

/-- Sets options one after the other up to the first that is refused. -/
def requestAll (options : SocketOptions) (family : Family) :
    List Setting → Except Fault SocketOptions
  | [] => .ok options
  | setting :: rest =>
    match options.request family setting with
    | .ok changed => changed.requestAll family rest
    | .error fault => .error fault

/-- Sets options one after the other whatever becomes of them, and lists each with its fault and the
options after it. A refused option changes nothing. -/
def requestEach (options : SocketOptions) (family : Family) :
    List Setting → List (Setting × Option Fault × SocketOptions)
  | [] => []
  | setting :: rest =>
    match options.request family setting with
    | .ok changed => (setting, none, changed) :: changed.requestEach family rest
    | .error fault => (setting, some fault, options) :: options.requestEach family rest

/-- The size read back for a buffer, where the system keeps twice what was asked for. -/
def sizeReadBack (asked : Nat) : Option Nat :=
  if 5000 ≤ asked ∧ asked ≤ 100000 then some (2 * asked) else none

end SocketOptions

namespace OptionPlan

def settings (plan : OptionPlan) (family : Family) : List Setting :=
  let reuse := match plan.reuse with
    | none => []
    | some reuse =>
      (if reuse.address then [Setting.reuseAddress true] else []) ++
        (if reuse.port then [Setting.reusePort true] else [])
  let nodelay := if family.isInternet && plan.tcp.nodelay then [Setting.nodelay true] else []
  let keepalive := match family.isInternet, plan.tcp.keepalive with
    | true, some keepalive =>
      [.keepalive true, .keepaliveIdle keepalive.idle.wholeSeconds,
        .keepaliveInterval keepalive.interval.wholeSeconds, .keepaliveCount keepalive.probes]
    | _, _ => []
  let linger := match plan.tcp.linger with
    | none => []
    | some span => [Setting.linger (some span.wholeSeconds)]
  let buffers :=
    (plan.buffers.receive.map Setting.receiveBuffer).toList ++
      (plan.buffers.send.map Setting.sendBuffer).toList
  reuse ++ nodelay ++ keepalive ++ linger ++ buffers

def apply (plan : OptionPlan) (family : Family) : Except Fault SocketOptions :=
  SocketOptions.requestAll {} family (plan.settings family)

end OptionPlan

end SocketLoop
