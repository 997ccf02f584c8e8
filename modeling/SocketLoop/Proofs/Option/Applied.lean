import Mathlib.Data.List.Basic
import SocketLoop.Option.Setting

/-! Plans carried out. What a plan asks for is told with the values as they were given; cutting them
to words on their way to the system changes neither what is refused nor, but for the largest ones,
what is set. The first option that is refused decides for the whole plan. -/
namespace SocketLoop

namespace Setting

/-- The place of an option in the order in which options are set. -/
def position : Setting → Nat
  | reuseAddress _ => 0
  | reusePort _ => 1
  | nodelay _ => 2
  | keepalive _ => 3
  | keepaliveIdle _ => 4
  | keepaliveInterval _ => 5
  | keepaliveCount _ => 6
  | linger _ => 7
  | receiveBuffer _ => 8
  | sendBuffer _ => 9

/-- The rules of the operating system: the error number with which it refuses an option. -/
def refusal? (family : Family) : Setting → Option Errno
  | reusePort on => if on = true ∧ family = .unix then some Errno.notSupported else none
  | keepaliveIdle seconds | keepaliveInterval seconds =>
    if 1 ≤ seconds ∧ seconds ≤ 32767 then none else some Errno.invalid
  | keepaliveCount probes => if 1 ≤ probes ∧ probes ≤ 127 then none else some Errno.invalid
  | _ => none

def fault? (family : Family) (setting : Setting) : Option Fault :=
  (setting.refusal? family).map fun errno => .setOption errno setting.name

/-- An option with its time cut to a word of 32 bits. -/
def cut : Setting → Setting
  | keepaliveIdle seconds => keepaliveIdle (min seconds 4294967295)
  | keepaliveInterval seconds => keepaliveInterval (min seconds 4294967295)
  | linger seconds => linger (seconds.map fun seconds => min seconds 4294967295)
  | setting => setting

@[simp] theorem cut_position (setting : Setting) : setting.cut.position = setting.position := by
  cases setting <;> rfl

@[simp] theorem cut_refusal? (family : Family) (setting : Setting) :
    setting.cut.refusal? family = setting.refusal? family := by
  cases setting with
  | keepaliveIdle seconds | keepaliveInterval seconds =>
    have same : 1 ≤ min seconds 4294967295 ∧ min seconds 4294967295 ≤ 32767 ↔
        1 ≤ seconds ∧ seconds ≤ 32767 := by omega
    simp only [cut, refusal?, same]
  | _ => rfl

@[simp] theorem cut_fault? (family : Family) (setting : Setting) :
    setting.cut.fault? family = setting.fault? family := by
  have name : setting.cut.name = setting.name := by cases setting <;> rfl
  rw [fault?, fault?, cut_refusal?, name]

theorem fault?_eq_none_iff (family : Family) (setting : Setting) :
    setting.fault? family = none ↔ setting.refusal? family = none :=
  Option.map_eq_none_iff

end Setting

theorem clampInt32_of_word (value : Nat) : clampInt32 (min value 4294967295) = clampInt32 value := by
  simp only [clampInt32, maxInt32]
  omega

theorem clampInt32_between (value limit : Nat) (fits : limit < maxInt32) :
    1 ≤ clampInt32 value ∧ clampInt32 value ≤ limit ↔ 1 ≤ value ∧ value ≤ limit := by
  simp only [clampInt32, maxInt32] at *
  omega

namespace SocketOptions

/-- The options after one that is not refused. -/
def put (options : SocketOptions) : Setting → SocketOptions
  | .reuseAddress on => { options with reuseAddress := on }
  | .reusePort on => { options with reusePort := on }
  | .nodelay on => { options with nodelay := on }
  | .keepalive on => { options with keepalive := on }
  | .keepaliveIdle seconds => { options with keepaliveIdle := clampInt32 seconds }
  | .keepaliveInterval seconds => { options with keepaliveInterval := clampInt32 seconds }
  | .keepaliveCount probes => { options with keepaliveCount := clampInt32 probes }
  | .linger seconds => { options with linger := seconds.map clampInt32 }
  | .receiveBuffer size => { options with receiveBuffer := some (clampInt32 size) }
  | .sendBuffer size => { options with sendBuffer := some (clampInt32 size) }

/-- An option that the family of the socket has is refused by the rules alone. -/
theorem set_eq (options : SocketOptions) (family : Family) (setting : Setting)
    (fits : setting.isInternet = true → family.isInternet = true) :
    options.set family setting =
      (setting.refusal? family).elim (.ok (options.put setting)) .error := by
  have known : (setting.isInternet && !family.isInternet) = false := by
    cases internet : setting.isInternet with
    | false => rfl
    | true => simp [fits internet]
  cases setting with
  | reusePort on => cases on <;> cases family <;> rfl
  | keepaliveIdle seconds | keepaliveInterval seconds =>
    simp only [set, known, Bool.false_eq_true, if_false, Setting.refusal?, put,
      clampInt32_between seconds 32767 (by decide)]
    split <;> rfl
  | keepaliveCount probes =>
    simp only [set, known, Bool.false_eq_true, if_false, Setting.refusal?, put,
      clampInt32_between probes 127 (by decide)]
    split <;> rfl
  | _ =>
    simp only [set, known]
    rfl

theorem request_eq (options : SocketOptions) (family : Family) (setting : Setting)
    (fits : setting.isInternet = true → family.isInternet = true) :
    options.request family setting =
      (setting.fault? family).elim (.ok (options.put setting)) .error := by
  rw [request, set_eq options family setting fits, Setting.fault?]
  cases setting.refusal? family <;> rfl

/-- Options set one after the other: the first fault is the result, and without one all are set. -/
theorem requestAll_eq (options : SocketOptions) (family : Family) (settings : List Setting)
    (fits : ∀ setting ∈ settings, setting.isInternet = true → family.isInternet = true) :
    options.requestAll family settings =
      (settings.findSome? (Setting.fault? family)).elim (.ok (settings.foldl put options)) .error := by
  induction settings generalizing options with
  | nil => rfl
  | cons setting rest ih =>
    have first := request_eq options family setting (fits setting List.mem_cons_self)
    have others := ih (options.put setting) fun other member =>
      fits other (List.mem_cons_of_mem _ member)
    rw [requestAll, first, List.findSome?_cons]
    cases setting.fault? family with
    | none => exact others
    | some fault => rfl

end SocketOptions

namespace OptionPlan

/-- What a plan asks for on a socket of a family, a time in whole seconds. Options of internet
connections are not asked for elsewhere. -/
inductive Asks (plan : OptionPlan) (family : Family) : Setting → Prop where
  | reuseAddress {reuse : ReusePlan} (given : plan.reuse = some reuse)
      (on : reuse.address = true) : Asks plan family (.reuseAddress true)
  | reusePort {reuse : ReusePlan} (given : plan.reuse = some reuse) (on : reuse.port = true) :
      Asks plan family (.reusePort true)
  | nodelay (internet : family.isInternet = true) (on : plan.tcp.nodelay = true) :
      Asks plan family (.nodelay true)
  | keepalive {probing : KeepalivePlan} (internet : family.isInternet = true)
      (given : plan.tcp.keepalive = some probing) : Asks plan family (.keepalive true)
  | keepaliveIdle {probing : KeepalivePlan} (internet : family.isInternet = true)
      (given : plan.tcp.keepalive = some probing) :
      Asks plan family (.keepaliveIdle probing.idle.seconds.toNat)
  | keepaliveInterval {probing : KeepalivePlan} (internet : family.isInternet = true)
      (given : plan.tcp.keepalive = some probing) :
      Asks plan family (.keepaliveInterval probing.interval.seconds.toNat)
  | keepaliveCount {probing : KeepalivePlan} (internet : family.isInternet = true)
      (given : plan.tcp.keepalive = some probing) :
      Asks plan family (.keepaliveCount probing.probes)
  | linger {span : Duration} (given : plan.tcp.linger = some span) :
      Asks plan family (.linger (some span.seconds.toNat))
  | receiveBuffer {size : Nat} (given : plan.buffers.receive = some size) :
      Asks plan family (.receiveBuffer size)
  | sendBuffer {size : Nat} (given : plan.buffers.send = some size) :
      Asks plan family (.sendBuffer size)

/-- The system refuses nothing that a plan asks for. -/
def Fits (plan : OptionPlan) (family : Family) : Prop :=
  ∀ setting, plan.Asks family setting → setting.refusal? family = none

/-- What a plan comes to grief over: the first option, in their order, that the system refuses among
those that the plan asks for. -/
def Fails (plan : OptionPlan) (family : Family) (fault : Fault) : Prop :=
  ∃ setting errno, plan.Asks family setting ∧ setting.refusal? family = some errno ∧
    fault = .setOption errno setting.name ∧
    ∀ earlier, plan.Asks family earlier → earlier.position < setting.position →
      earlier.refusal? family = none

/-- The probing of idle connections, which only sockets of the internet know. -/
def probing? (plan : OptionPlan) (family : Family) : Option KeepalivePlan :=
  if family.isInternet then plan.tcp.keepalive else none

/-- The options of a socket that a plan was carried out on: what the plan asks for, and the defaults
of a fresh socket for the rest. -/
def outcome (plan : OptionPlan) (family : Family) : SocketOptions :=
  let fresh : SocketOptions := {}
  { reuseAddress := plan.reuse.any ReusePlan.address
    reusePort := plan.reuse.any ReusePlan.port
    nodelay := family.isInternet && plan.tcp.nodelay
    keepalive := (plan.probing? family).isSome
    keepaliveIdle := (plan.probing? family).elim fresh.keepaliveIdle fun probing =>
      clampInt32 probing.idle.seconds.toNat
    keepaliveInterval := (plan.probing? family).elim fresh.keepaliveInterval fun probing =>
      clampInt32 probing.interval.seconds.toNat
    keepaliveCount := (plan.probing? family).elim fresh.keepaliveCount fun probing =>
      clampInt32 probing.probes
    linger := plan.tcp.linger.map fun span => clampInt32 span.seconds.toNat
    receiveBuffer := plan.buffers.receive.map clampInt32
    sendBuffer := plan.buffers.send.map clampInt32 }

variable (plan : OptionPlan) (family : Family)

def reuseSettings : List Setting :=
  plan.reuse.elim [] fun reuse =>
    (if reuse.address then [.reuseAddress true] else []) ++
      (if reuse.port then [.reusePort true] else [])

def nodelaySettings : List Setting :=
  if family.isInternet && plan.tcp.nodelay then [.nodelay true] else []

def probingSettings : List Setting :=
  (plan.probing? family).elim [] fun probing =>
    [.keepalive true, .keepaliveIdle probing.idle.wholeSeconds,
      .keepaliveInterval probing.interval.wholeSeconds, .keepaliveCount probing.probes]

def lingerSettings : List Setting :=
  (plan.tcp.linger.map fun span => .linger (some span.wholeSeconds)).toList

def bufferSettings : List Setting :=
  (plan.buffers.receive.map .receiveBuffer).toList ++ (plan.buffers.send.map .sendBuffer).toList

theorem settings_eq : plan.settings family = plan.reuseSettings ++ plan.nodelaySettings family ++
    plan.probingSettings family ++ plan.lingerSettings ++ plan.bufferSettings := by
  simp only [settings, reuseSettings, nodelaySettings, probingSettings, probing?, lingerSettings,
    bufferSettings]
  cases plan.reuse <;> cases family <;> cases plan.tcp.keepalive <;> cases plan.tcp.linger <;> rfl

theorem probing?_eq_some (probing : KeepalivePlan) : plan.probing? family = some probing ↔
    family.isInternet = true ∧ plan.tcp.keepalive = some probing := by
  rw [probing?, Option.ite_none_right_eq_some]

theorem asks_of_setting (setting : Setting) (member : setting ∈ plan.settings family) :
    ∃ asked, plan.Asks family asked ∧ setting = asked.cut := by
  rw [settings_eq] at member
  simp only [List.mem_append] at member
  rcases member with (((reuse | nodelay) | probing) | linger) | buffers
  · rw [reuseSettings] at reuse
    cases given : plan.reuse with
    | none => simp [given] at reuse
    | some plan =>
      simp only [given, Option.elim_some, List.mem_append, List.mem_ite_nil_right,
        List.mem_singleton] at reuse
      rcases reuse with ⟨on, rfl⟩ | ⟨on, rfl⟩
      · exact ⟨_, .reuseAddress given on, rfl⟩
      · exact ⟨_, .reusePort given on, rfl⟩
  · simp only [nodelaySettings, List.mem_ite_nil_right, Bool.and_eq_true,
      List.mem_singleton] at nodelay
    obtain ⟨⟨internet, on⟩, rfl⟩ := nodelay
    exact ⟨_, .nodelay internet on, rfl⟩
  · rw [probingSettings] at probing
    cases found : plan.probing? family with
    | none => simp [found] at probing
    | some keepalive =>
      obtain ⟨internet, given⟩ := (plan.probing?_eq_some family keepalive).mp found
      simp only [found, Option.elim_some, List.mem_cons, List.not_mem_nil, or_false] at probing
      rcases probing with rfl | rfl | rfl | rfl
      · exact ⟨_, .keepalive internet given, rfl⟩
      · exact ⟨_, .keepaliveIdle internet given, rfl⟩
      · exact ⟨_, .keepaliveInterval internet given, rfl⟩
      · exact ⟨_, .keepaliveCount internet given, rfl⟩
  · simp only [lingerSettings, Option.mem_toList, Option.map_eq_some_iff] at linger
    obtain ⟨span, given, rfl⟩ := linger
    exact ⟨_, .linger given, rfl⟩
  · simp only [bufferSettings, List.mem_append, Option.mem_toList,
      Option.map_eq_some_iff] at buffers
    rcases buffers with ⟨size, given, rfl⟩ | ⟨size, given, rfl⟩
    · exact ⟨_, .receiveBuffer given, rfl⟩
    · exact ⟨_, .sendBuffer given, rfl⟩

theorem mem_settings (setting : Setting) :
    setting ∈ plan.settings family ↔ ∃ asked, plan.Asks family asked ∧ setting = asked.cut := by
  refine ⟨plan.asks_of_setting family setting, ?_⟩
  rintro ⟨asked, asks, rfl⟩
  rw [settings_eq]
  cases asks with
  | reuseAddress given on | reusePort given on => simp [reuseSettings, given, on, Setting.cut]
  | nodelay internet on => simp [nodelaySettings, internet, on, Setting.cut]
  | keepalive internet given | keepaliveIdle internet given | keepaliveInterval internet given
  | keepaliveCount internet given =>
    simp [probingSettings, probing?, internet, given, Setting.cut, Duration.wholeSeconds]
  | linger given => simp [lingerSettings, given, Setting.cut, Duration.wholeSeconds]
  | receiveBuffer given | sendBuffer given => simp [bufferSettings, given, Setting.cut]

/-- Each option is set once at most, in the order of the options. -/
theorem settings_ordered :
    (plan.settings family).Pairwise fun earlier later => earlier.position < later.position := by
  have reuse : (plan.reuseSettings.map Setting.position).Sublist [0, 1] := by
    rw [reuseSettings]
    rcases plan.reuse with - | ⟨- | -, - | -⟩ <;> decide
  have nodelay : ((plan.nodelaySettings family).map Setting.position).Sublist [2] := by
    rw [nodelaySettings]
    split <;> simp [Setting.position]
  have probing : ((plan.probingSettings family).map Setting.position).Sublist [3, 4, 5, 6] := by
    rw [probingSettings]
    cases plan.probing? family <;> simp [Setting.position]
  have linger : (plan.lingerSettings.map Setting.position).Sublist [7] := by
    rw [lingerSettings]
    cases plan.tcp.linger <;> simp [Setting.position]
  have buffers : (plan.bufferSettings.map Setting.position).Sublist [8, 9] := by
    rw [bufferSettings]
    cases plan.buffers.receive <;> cases plan.buffers.send <;> simp [Setting.position]
  have places := (((reuse.append nodelay).append probing).append linger).append buffers
  rw [← List.map_append, ← List.map_append, ← List.map_append, ← List.map_append,
    ← settings_eq] at places
  exact List.pairwise_map.mp (List.Pairwise.sublist places (by decide))

theorem clampInt32_wholeSeconds (span : Duration) :
    clampInt32 span.wholeSeconds = clampInt32 span.seconds.toNat :=
  clampInt32_of_word span.seconds.toNat

theorem foldl_settings : (plan.settings family).foldl SocketOptions.put {} = plan.outcome family := by
  have reuse : plan.reuseSettings.foldl SocketOptions.put {} =
      { reuseAddress := plan.reuse.any ReusePlan.address
        reusePort := plan.reuse.any ReusePlan.port } := by
    rw [reuseSettings]
    rcases plan.reuse with - | ⟨- | -, - | -⟩ <;> rfl
  have nodelay (options : SocketOptions) (fresh : options.nodelay = false) :
      (plan.nodelaySettings family).foldl SocketOptions.put options =
        { options with nodelay := family.isInternet && plan.tcp.nodelay } := by
    cases options
    subst fresh
    rw [nodelaySettings]
    cases family.isInternet && plan.tcp.nodelay <;> rfl
  have buffers (options : SocketOptions) (fresh : options.receiveBuffer = none)
      (unused : options.sendBuffer = none) :
      plan.bufferSettings.foldl SocketOptions.put options =
        { options with
          receiveBuffer := plan.buffers.receive.map clampInt32
          sendBuffer := plan.buffers.send.map clampInt32 } := by
    cases options
    subst fresh unused
    rw [bufferSettings]
    cases plan.buffers.receive <;> cases plan.buffers.send <;> rfl
  rw [settings_eq, List.foldl_append, List.foldl_append, List.foldl_append, List.foldl_append,
    reuse, nodelay _ rfl, probingSettings, lingerSettings, outcome]
  cases plan.probing? family <;> cases plan.tcp.linger <;>
    simp [SocketOptions.put, buffers, clampInt32_wholeSeconds]

theorem apply_eq : plan.apply family =
    ((plan.settings family).findSome? (Setting.fault? family)).elim (.ok (plan.outcome family))
      .error := by
  rw [apply, SocketOptions.requestAll_eq, foldl_settings]
  intro setting member internet
  obtain ⟨asked, asks, rfl⟩ := plan.asks_of_setting family setting member
  cases asks with
  | nodelay known | keepaliveIdle known | keepaliveInterval known | keepaliveCount known => exact known
  | _ => cases internet

theorem mem_before_iff (before after : List Setting) (setting : Setting)
    (whole : plan.settings family = before ++ setting :: after) (earlier : Setting)
    (listed : earlier ∈ plan.settings family) :
    earlier ∈ before ↔ earlier.position < setting.position := by
  have ordered := plan.settings_ordered family
  rw [whole] at ordered listed
  obtain ⟨-, behind, front⟩ := List.pairwise_append.mp ordered
  refine ⟨fun member => front earlier member setting List.mem_cons_self, fun sooner => ?_⟩
  rcases List.mem_append.mp listed with member | member
  · exact member
  · rcases List.mem_cons.mp member with rfl | later
    · exact absurd sooner (Nat.lt_irrefl _)
    · exact absurd sooner (Nat.lt_asymm ((List.pairwise_cons.mp behind).1 earlier later))

theorem first_fault_iff (fault : Fault) :
    (plan.settings family).findSome? (Setting.fault? family) = some fault ↔
      plan.Fails family fault := by
  rw [List.findSome?_eq_some_iff]
  -- The settings in front of the first fault are those whose options come sooner in the order.
  constructor
  · rintro ⟨before, setting, after, whole, found, fine⟩
    obtain ⟨asked, asks, rfl⟩ := plan.asks_of_setting family setting (by simp [whole])
    rw [Setting.cut_fault?, Setting.fault?, Option.map_eq_some_iff] at found
    obtain ⟨errno, refused, rfl⟩ := found
    refine ⟨asked, errno, asks, refused, rfl, ?_⟩
    intro earlier wished sooner
    have listed := (plan.mem_settings family earlier.cut).mpr ⟨earlier, wished, rfl⟩
    have member := (plan.mem_before_iff family before after _ whole _ listed).mpr (by simpa)
    simpa [Setting.fault?_eq_none_iff] using fine _ member
  · rintro ⟨asked, errno, asks, refused, rfl, fine⟩
    have listed := (plan.mem_settings family asked.cut).mpr ⟨asked, asks, rfl⟩
    obtain ⟨before, after, whole⟩ := List.append_of_mem listed
    refine ⟨before, asked.cut, after, whole, ?_, ?_⟩
    · rw [Setting.cut_fault?, Setting.fault?, refused]
      rfl
    · intro earlier member
      have inside : earlier ∈ plan.settings family := by simp [whole, member]
      have sooner := (plan.mem_before_iff family before after _ whole _ inside).mp member
      obtain ⟨wish, wished, rfl⟩ := plan.asks_of_setting family earlier inside
      rw [Setting.cut_fault?, Setting.fault?_eq_none_iff]
      exact fine wish wished (by simpa using sooner)

theorem no_fault_iff :
    (plan.settings family).findSome? (Setting.fault? family) = none ↔ plan.Fits family := by
  rw [List.findSome?_eq_none_iff]
  constructor
  · intro fine setting asks
    have listed := (plan.mem_settings family setting.cut).mpr ⟨setting, asks, rfl⟩
    simpa [Setting.fault?_eq_none_iff] using fine _ listed
  · intro fits setting member
    obtain ⟨asked, asks, rfl⟩ := plan.asks_of_setting family setting member
    rw [Setting.cut_fault?, Setting.fault?_eq_none_iff]
    exact fits asked asks

/-- A plan fails for the first of the options it asks for that is refused. -/
theorem apply_error_iff (fault : Fault) :
    plan.apply family = .error fault ↔ plan.Fails family fault := by
  rw [apply_eq, ← first_fault_iff]
  cases (plan.settings family).findSome? (Setting.fault? family) <;> simp

/-- A plan of which nothing is refused is carried out in full. -/
theorem apply_ok_iff (options : SocketOptions) :
    plan.apply family = .ok options ↔ plan.Fits family ∧ options = plan.outcome family := by
  rw [apply_eq, ← no_fault_iff]
  cases (plan.settings family).findSome? (Setting.fault? family) <;> simp [eq_comm]

end OptionPlan

end SocketLoop
