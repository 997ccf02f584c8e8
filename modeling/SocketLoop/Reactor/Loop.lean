import SocketLoop.Reactor.Basic

/-! The loop of a reactor. A pass polls the observed sockets and calls the observers of what it
found, one at a time, from snapshots taken socket by socket and kind by kind; a registration removed
in the meantime is skipped. The observers, the poll and the sleep belong to a host, and may change
everything. -/
namespace SocketLoop

/-- What a run does, as a reader of its journal sees it. -/
inductive Event where
  | called (socket : Handle) (armed : Armed) (notification : Notification)
  | polled (asked ready : Nat)
  | interrupted
  | pollFailed (errno : Errno)
  | idled
deriving DecidableEq

/-- A reactor, the journal of what happened, newest first, and everything else. -/
structure Site (ω : Type) where
  reactor : Reactor := {}
  journal : List Event := []
  outside : ω

namespace Site

variable {ω : Type}

def note (site : Site ω) (event : Event) : Site ω :=
  { site with journal := event :: site.journal }

def onReactor (site : Site ω) (change : Reactor → Reactor) : Site ω :=
  { site with reactor := change site.reactor }

end Site

inductive Ending where
  | returned
  | panicked
deriving DecidableEq, Inhabited

structure Host (ω : Type) where
  call : Armed → Notification → Site ω → Ending × Site ω
  /-- Polls a non-empty set of sockets for at most the poll timeout. -/
  poll : List Interest → Site ω → Polled × Site ω
  rest : Site ω → Site ω
  /-- The order in which a broadcast visits its sockets. -/
  arrange : List Handle → List Handle := id

inductive RunEnd where
  | done
  | failed (errno : Errno)
  | refused
  /-- An observer did not return normally; the reactor stays active. -/
  | panicked
  /-- The fuel ran out. -/
  | unfinished
deriving DecidableEq, Inhabited

namespace Loop

variable {ω : Type}

/-- Calls the observer of one registration, unless it was removed in the meantime. -/
def callOne (host : Host ω) (socket : Handle) (notification : Notification) (armed : Armed)
    (site : Site ω) : Ending × Site ω :=
  match site.reactor.publish? armed with
  | none => (.returned, site)
  | some reactor =>
    let site := { site with reactor }.note (.called socket armed notification)
    let (ending, site) := host.call armed notification site
    (ending, site.onReactor Reactor.finish)

/-- Calls the observers of a snapshot in order. -/
def deliver (host : Host ω) (socket : Handle) (notification : Notification) :
    List Armed → Site ω → Ending × Site ω
  | [], site => (.returned, site.onReactor fun reactor => { reactor with armed := [] })
  | armed :: rest, site =>
    let site := site.onReactor fun reactor => { reactor with armed := armed :: rest }
    match callOne host socket notification armed site with
    | (.returned, site) => deliver host socket notification rest site
    | (.panicked, site) =>
      (.panicked, site.onReactor fun reactor => { reactor with armed := [] })

/-- Calls the observers that a socket has for a notification's kind when this starts. -/
def dispatch (host : Host ω) (socket : Handle) (notification : Notification) (site : Site ω) :
    Ending × Site ω :=
  deliver host socket notification
    (site.reactor.registry.snapshot socket.descriptor notification.kind) site

/-- Goes on with a second part unless the first one panicked. -/
def andThen (first : Ending × Site ω) (next : Site ω → Ending × Site ω) : Ending × Site ω :=
  match first with
  | (.returned, site) => next site
  | (.panicked, site) => (.panicked, site)

def unheardHangUp (registry : Registry) (socket : Handle) (readiness : Readiness) : Bool :=
  readiness.hangUp && !registry.observes socket.descriptor .readable

def muteReported (registry : Registry) (socket : Handle) (readiness : Readiness) : Registry :=
  if readiness.invalid || readiness.hangUp then
    registry.mute socket.descriptor readiness.invalid
  else registry

def notificationsOf (socket : Handle) (readiness : Readiness) (unheard : Bool) :
    List Notification :=
  (if readiness.readable then [.ofSocket .readable socket] else []) ++
    (if readiness.output then [.ofSocket .writable socket] else []) ++
    (if readiness.failed then [.failure socket readiness.code]
      else if unheard then [.failure socket (some Errno.brokenPipe)] else [])

def dispatchAll (host : Host ω) (socket : Handle) :
    List Notification → Site ω → Ending × Site ω
  | [], site => (.returned, site)
  | notification :: rest, site =>
    andThen (dispatch host socket notification site) (dispatchAll host socket rest)

/-- Reports what a poll found about one socket. Whether a hang-up goes unheard is settled before
any observer is called. -/
def dispatchReady (host : Host ω) (socket : Handle) (readiness : Readiness) (site : Site ω) :
    Ending × Site ω :=
  let registry := muteReported site.reactor.registry socket readiness
  let unheard := unheardHangUp registry socket readiness
  dispatchAll host socket (notificationsOf socket readiness unheard)
    (site.onReactor fun reactor => { reactor with registry })

def readyPass (host : Host ω) : List (Handle × Readiness) → Site ω → Ending × Site ω
  | [], site => (.returned, site)
  | (socket, readiness) :: rest, site =>
    andThen (dispatchReady host socket readiness site) (readyPass host rest)

/-- Sends a notification of a kind to each of some sockets. The sockets still to come are held, and
those that the pass keeps anyway. -/
def sendEach (host : Host ω) (kind : Kind) (kept : List Handle) :
    List Handle → Site ω → Ending × Site ω
  | [], site => (.returned, site)
  | socket :: rest, site =>
    let site := site.onReactor fun reactor => { reactor with held := socket :: rest ++ kept }
    andThen (dispatch host socket (.ofSocket kind socket) site) (sendEach host kind kept rest)

def letGo (result : Ending × Site ω) : Ending × Site ω :=
  (result.1, result.2.onReactor fun reactor => { reactor with held := [] })

/-- Sends a notification of a kind to every socket that observes it when this starts. -/
def broadcast (host : Host ω) (kind : Kind) (site : Site ω) : Ending × Site ω :=
  let targets := host.arrange (site.reactor.registry.observing kind)
  letGo (sendEach host kind site.reactor.held targets site)

inductive PassEnd where
  | onward
  | failed (errno : Errno)
  | panicked
deriving DecidableEq, Inhabited

def passEnd (result : Ending × Site ω) : PassEnd × Site ω :=
  match result with
  | (.returned, site) => (.onward, site)
  | (.panicked, site) => (.panicked, site)

/-- A pass with nothing to poll: it sleeps, then reports idleness unless a stop is pending. -/
def idlePass (host : Host ω) (site : Site ω) : PassEnd × Site ω :=
  let site := if site.reactor.stopRequested then site else host.rest site
  let site := site.note .idled
  if site.reactor.settings.idle && !site.reactor.stopRequested then
    passEnd (broadcast host .idle site)
  else (.onward, site)

def pollPass (host : Host ω) (asked : List Interest) (site : Site ω) : PassEnd × Site ω :=
  let site := site.onReactor fun reactor => { reactor with held := asked.map Interest.socket }
  match host.poll asked site with
  | (.interrupted, site) =>
    (.onward, (letGo (.returned, site)).2.note .interrupted)
  | (.failed errno, site) =>
    (.failed errno, (letGo (.returned, site)).2.note (.pollFailed errno))
  | (.ready [], site) =>
    let site := site.note (.polled asked.length 0)
    if site.reactor.settings.timeouts then passEnd (broadcast host .timeout site)
    else passEnd (letGo (.returned, site))
  | (.ready (first :: rest), site) =>
    let site := site.note (.polled asked.length (rest.length + 1))
    passEnd (letGo (readyPass host (first :: rest) site))

def pass (host : Host ω) (site : Site ω) : PassEnd × Site ω :=
  match site.reactor.registry.pollSet with
  | [] => idlePass host site
  | first :: rest => pollPass host (first :: rest) site

/-- Passes until a stop is requested, a poll fails or an observer panics. -/
def passes (host : Host ω) : Nat → Site ω → RunEnd × Site ω
  | 0, site => (if site.reactor.stopRequested then .done else .unfinished, site)
  | fuel + 1, site =>
    if site.reactor.stopRequested then (.done, site)
    else match pass host site with
      | (.onward, site) => passes host fuel site
      | (.failed errno, site) => (.failed errno, site)
      | (.panicked, site) => (.panicked, site)

/-- The end of a run whose passes are over: every shutdown observer is called, then the request to
stop is used up and the reactor is free. -/
def close (host : Host ω) (result : RunEnd) (site : Site ω) : RunEnd × Site ω :=
  match broadcast host .shutdown site with
  | (.returned, site) =>
    (result, (site.onReactor Reactor.clearStop).onReactor Reactor.leave)
  | (.panicked, site) => (.panicked, site)

/-- Runs the loop. The fuel bounds the number of passes. -/
def run (host : Host ω) (fuel : Nat) (site : Site ω) : RunEnd × Site ω :=
  match site.reactor.enter? with
  | none => (.refused, site)
  | some reactor =>
    match passes host fuel { site with reactor } with
    | (.panicked, site) => (.panicked, site)
    | (.unfinished, site) => (.unfinished, site)
    | (result, site) => close host result site

end Loop

end SocketLoop
