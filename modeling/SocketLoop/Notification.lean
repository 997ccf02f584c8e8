import SocketLoop.Kind

/-! Shared descriptors and the record handed to an observer. Two handles are the same socket when
their descriptors agree; the share tells which clones count together. -/
namespace SocketLoop

/-- A shared reference to an open descriptor. Clones of one handle keep its share. -/
structure Handle where
  descriptor : Int
  share : Nat := 0
deriving DecidableEq, Inhabited

/-- Handles are compared by descriptor alone. -/
def Handle.sameSocket (left right : Handle) : Bool :=
  left.descriptor == right.descriptor

def Handle.text (handle : Handle) : String :=
  "SocketHandle \x7b fd: " ++ toString handle.descriptor ++ " \x7d"

structure Notification where
  kind : Kind
  /-- The socket it fired for; a notification made for a queue may have none. -/
  socket : Option Handle := none
  code : Option Int := none
deriving DecidableEq, Inhabited

namespace Notification

def ofSocket (kind : Kind) (socket : Handle) : Notification := ⟨kind, some socket, none⟩

def failure (socket : Handle) (code : Option Int) : Notification := ⟨.error, some socket, code⟩

def text (notification : Notification) : String :=
  let socket := match notification.socket with
    | none => "None"
    | some handle => "Some(" ++ handle.text ++ ")"
  let code := match notification.code with
    | none => "None"
    | some errno => "Some(" ++ toString errno ++ ")"
  "Notification \x7b kind: " ++ notification.kind.title ++ ", socket: " ++ socket ++
    ", code: " ++ code ++ " \x7d"

end Notification

end SocketLoop
