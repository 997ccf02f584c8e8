import SocketLoop.Scenario.Observing

/-! Actions on sockets: descriptors of given readiness, handles, connected pairs, listeners and
clients. -/
namespace SocketLoop.Scenario.Stage

def failedWith (fault : Fault) : Reply := .failed (.ofFault fault.hideAddress)

/-- The conditions that descriptors are found in. -/
def conditions : List Readiness :=
  [{},
    { input := true },
    { output := true },
    { input := true, output := true },
    { hangUp := true },
    { input := true, hangUp := true },
    { input := true, output := true, hangUp := true },
    { input := true, output := true, error := true, hangUp := true },
    { error := true },
    { output := true, error := true },
    { invalid := true }]

/-- Goes on with a descriptor in some condition, where there is such a descriptor. -/
def withDescriptor (stage : Stage) (readiness : Readiness) (act : File → Stage) :
    Reply × Verdict × Stage :=
  if conditions.contains readiness then (.nothing, .onward, act (.given readiness))
  else stage.panicking ("no descriptor polls as \"" ++ readiness.text ++ "\"")

def mask (stage : Stage) (id : String) (readiness : Readiness) : Reply × Verdict × Stage :=
  stage.withDescriptor readiness fun file =>
    let (descriptor, stage) := stage.system fun kernel => kernel.append file
    stage.hold id descriptor .handle

def cond (stage : Stage) (context : Context) (sock : Option String) (readiness : Readiness) :
    Reply × Verdict × Stage :=
  match stage.socketOf context sock with
  | none => (.word "no socket", .onward, stage)
  | some socket =>
    stage.withDescriptor readiness fun file =>
      let change (kernel : Kernel) : Unit × Kernel :=
        match kernel.file socket.descriptor.toNat with
        | .given _ => ((), kernel.put socket.descriptor.toNat file)
        | _ => ((), kernel)
      (stage.system change).2

/-- Makes another handle of a socket: one of the same share, or an alias with a share of its own. -/
def share (stage : Stage) (context : Context) (sock : Option String) (id : String)
    (separate : Bool) : Reply × Stage :=
  match stage.socketOf context sock with
  | none => (.word "no socket", stage)
  | some socket =>
    if separate then
      let (handle, stage) := stage.newHandle socket.descriptor.toNat
      (.nothing, (stage.setItem id (.handle handle)).onScene fun scene => { scene with
        aliases := handle.share :: scene.aliases })
    else (.nothing, stage.setItem id (.handle socket))

def close (stage : Stage) (id : String) : Reply × Stage :=
  (.flag (stage.scene.items.lookup id).isSome,
    stage.onScene fun scene => { scene with
      items := scene.items.filter fun row => row.1 != id })

def equal (stage : Stage) (left right : String) : Reply × Stage :=
  match stage.handle? left, stage.handle? right with
  | some left, some right => (.equality (left.sameSocket right), stage)
  | _, _ => (.word "no socket", stage)

def refs (stage : Stage) (context : Context) (sock : Option String) : Reply × Stage :=
  match stage.socketOf context sock with
  | none => (.nothing, stage)
  | some socket =>
    (.count (stage.handles.filter fun handle => handle.share == socket.share).length, stage)

def handleCall (stage : Stage) (context : Context) (sock : Option String) (call : HandleCall) :
    Reply × Stage :=
  let perform (socket : Handle) : Reply × Stage :=
    let fuel := match call with
      | .writeAll data => data.length + 1
      | _ => 1
    let (reply, stage) := stage.system fun kernel =>
      call.perform (Kernel.transport socket.descriptor.toNat) fuel kernel
    (.handle reply, stage)
  match sock with
  | none =>
    match context.socket with
    | some socket => perform socket
    | none => (.word "no socket", stage)
  | some id =>
    match stage.scene.items.lookup id, call with
    | some (.handle socket), _ => perform socket
    | some (.stream socket), .read _ => perform socket
    | some (.stream socket), .write _ => perform socket
    | some (.stream socket), .writeAll _ => perform socket
    | _, _ => (.word "no socket", stage)

def pair (stage : Stage) (left right : String) : Reply × Stage :=
  let ((near, far), stage) := stage.system fun kernel =>
    let (near, far, kernel) := kernel.pair
    ((near, far), kernel)
  (.nothing, (stage.hold left near .handle).hold right far .handle)

def numberAfter? (word text : String) : Option Nat :=
  if text.startsWith word then (text.drop word.length).toNat? else none

def unixOfName (name : String) : Unix :=
  if name.startsWith "/" then ⟨Bytes.ofText name, false⟩
  else match numberAfter? "len:" name, numberAfter? "pathlen:" name with
    | some length, _ => ⟨List.replicate length 120, true⟩
    | none, some length => ⟨List.replicate length 47, false⟩
    | none, none => ⟨Bytes.ofText ("scenario/" ++ name), true⟩

def hostOfName (name : String) : V4 :=
  let parts := if name.startsWith "ip:" then
      ((name.drop 3).toString.splitOn ".").map fun part => UInt8.ofNat (part.toNat?.getD 0)
    else []
  match parts with
  | [first, second, third, fourth] => ⟨first, second, third, fourth, 0⟩
  | _ => V4.localhost 0

def listenAddress (stage : Stage) (name : String) : Address :=
  match stage.scene.family, stage.scene.names.lookup name with
  | .unix, _ => .unix (unixOfName name)
  | _, some address => address
  | .v4, none => .v4 (hostOfName name)
  | .v6, none => .v6 (V6.localhost 0)

def setName (stage : Stage) (name : String) (address : Address) : Stage :=
  stage.onScene fun scene => { scene with
    names := (name, address) :: scene.names.filter fun row => row.1 != name }

/-- The address to which a client of a name connects. On the internet a name that nobody listened
on yet gets an address of its own, from a listener that is closed again; that this fails is not
expected, and the message of the panic is given instead. -/
def connectAddress (stage : Stage) (name : String) : Except String Address × Stage :=
  match stage.scene.family, stage.scene.names.lookup name with
  | .unix, _ => (.ok (.unix (unixOfName name)), stage)
  | _, some address => (.ok address, stage)
  | family, none =>
    let free : Address := match family with
      | .v6 => .v6 (V6.localhost 0)
      | _ => .v4 (V4.localhost 0)
    let found := stage.request fun kernel =>
      match kernel.openAndListen free 1 with
      | .error fault => .error fault
      | .ok (descriptor, address, kernel) => .ok (address, kernel.close descriptor)
    match found with
    | (.ok address, stage) => (.ok address, stage.setName name address)
    | (.error fault, stage) => (.error (Failure.panicOver fault), stage)

def openListener (stage : Stage) (plan : Option OptionPlan) (name : String) (backlog : Int) :
    Except Fault (Nat × Address) × Stage :=
  let address := stage.listenAddress name
  stage.request fun kernel =>
    let opened := match plan with
      | some plan => kernel.buildListener plan address backlog
      | none => kernel.openAndListen address backlog
    match opened with
    | .error fault => .error fault
    | .ok (descriptor, address, kernel) => .ok ((descriptor, address), kernel)

def listen (stage : Stage) (id name : String) (backlog : Int) (raw : Bool) : Reply × Stage :=
  match stage.openListener (if raw then none else some .listener) name backlog with
  | (.error fault, stage) => (failedWith fault, stage)
  | (.ok (descriptor, address), stage) =>
    (.address address, (stage.setName name address).hold id descriptor .listener)

def peerAddress (stage : Stage) : Address :=
  match stage.scene.family with
  | .unix => .unix ⟨[], false⟩
  | .v4 => .v4 (V4.localhost 1)
  | .v6 => .v6 (V6.localhost 1)

def acceptOn (stage : Stage) (listener id : String) (plain : Bool) : Reply × Stage :=
  match stage.scene.items.lookup listener with
  | some (.listener handle) =>
    match stage.request fun kernel => kernel.accept handle.descriptor.toNat with
    | (.error fault, stage) => (failedWith fault, stage)
    | (.ok none, stage) => (.word "would_block", stage)
    | (.ok (some descriptor), stage) =>
      (.peer stage.peerAddress,
        stage.hold id descriptor (if plain then .stream else .handle))
  | _ => (.word "no listener", stage)

/-- Connects without a reactor; a check reads the pending error twice. -/
def client (stage : Stage) (id name : String) (check : Bool) : Reply × Verdict × Stage :=
  match stage.connectAddress name with
  | (.error message, stage) => stage.panicking message
  | (.ok address, stage) =>
    match stage.request fun kernel => kernel.openAndConnect address with
    | (.error fault, stage) => (failedWith fault, .onward, stage)
    | (.ok descriptor, stage) =>
      let stage := stage.hold id descriptor .handle
      if check then
        let (first, stage) := stage.handleCall {} (some id) .takeError
        let (second, stage) := stage.handleCall {} (some id) .takeError
        (.both first second, .onward, stage)
      else (.ok, .onward, stage)

end SocketLoop.Scenario.Stage
