/-! The six kinds of notification and sets of them. A set answers membership kind by kind, so a law
about sets reduces to a law about booleans; sets list their kinds in declaration order. -/
namespace SocketLoop

inductive Kind where
  /-- Data or end-of-stream can be read without blocking. -/
  | readable
  /-- The send buffer has room; also a finished non-blocking connect. -/
  | writable
  | shutdown
  | timeout
  | error
  | idle
deriving DecidableEq, Inhabited

namespace Kind

def all : List Kind := [.readable, .writable, .shutdown, .timeout, .error, .idle]

def name : Kind → String
  | .readable => "readable"
  | .writable => "writable"
  | .shutdown => "shutdown"
  | .timeout => "timeout"
  | .error => "error"
  | .idle => "idle"

def title : Kind → String
  | .readable => "Readable"
  | .writable => "Writable"
  | .shutdown => "Shutdown"
  | .timeout => "Timeout"
  | .error => "Error"
  | .idle => "Idle"

def ofName? (text : String) : Option Kind :=
  all.find? fun kind => kind.name == text

theorem mem_all (kind : Kind) : kind ∈ all := by cases kind <;> simp [all]

end Kind

structure KindSet where
  readable : Bool := false
  writable : Bool := false
  shutdown : Bool := false
  timeout : Bool := false
  error : Bool := false
  idle : Bool := false
deriving DecidableEq, Inhabited

namespace KindSet

def empty : KindSet := {}

def has (set : KindSet) : Kind → Bool
  | .readable => set.readable
  | .writable => set.writable
  | .shutdown => set.shutdown
  | .timeout => set.timeout
  | .error => set.error
  | .idle => set.idle

def put (set : KindSet) (kind : Kind) (present : Bool) : KindSet :=
  match kind with
  | .readable => { set with readable := present }
  | .writable => { set with writable := present }
  | .shutdown => { set with shutdown := present }
  | .timeout => { set with timeout := present }
  | .error => { set with error := present }
  | .idle => { set with idle := present }

def insert (set : KindSet) (kind : Kind) : KindSet := set.put kind true

def erase (set : KindSet) (kind : Kind) : KindSet := set.put kind false

def add (set : KindSet) (kind : Kind) : Bool × KindSet := (!set.has kind, set.insert kind)

def remove (set : KindSet) (kind : Kind) : Bool × KindSet := (set.has kind, set.erase kind)

def ofList (kinds : List Kind) : KindSet := kinds.foldl insert empty

def toList (set : KindSet) : List Kind := Kind.all.filter set.has

def size (set : KindSet) : Nat := set.toList.length

def isEmpty (set : KindSet) : Bool := set == empty

def text (set : KindSet) : String :=
  "\x7b" ++ ", ".intercalate (set.toList.map Kind.title) ++ "\x7d"

@[simp] theorem has_empty (kind : Kind) : empty.has kind = false := by cases kind <;> rfl

@[simp] theorem has_put (set : KindSet) (kind other : Kind) (present : Bool) :
    (set.put kind present).has other = if other = kind then present else set.has other := by
  cases kind <;> cases other <;> rfl

@[simp] theorem mem_toList (set : KindSet) (kind : Kind) :
    kind ∈ set.toList ↔ set.has kind = true := by
  simp [toList, Kind.mem_all]

end KindSet

end SocketLoop
