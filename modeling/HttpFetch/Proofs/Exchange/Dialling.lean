import HttpFetch.Proofs.Exchange.Connecting
import HttpFetch.Proofs.Exchange.Origins

/-!
# The calls that open a connection

A connection is opened by few calls, and their order is fixed: the timeout is set if it takes
effect, the socket connects, the timeout is taken off again, and TLS may begin.
`SocketEvent.Dialling` lists how far the calls may get, and `Network.connect_attempts` says of every
attempt to connect what became of the socket that it opened, if it opened one, what was called on
it, and that no fault comes out of it that the network did not hold.
-/

namespace HttpFetch

/-! ## The faults that a network holds -/

def Arrival.fault? : Arrival → Option Fault
  | data _ => none
  | fault cause => some cause

def Lookup.fault? : Lookup → Option Fault
  | addresses _ => none
  | fault cause => some cause

namespace SocketScript

/-- All faults that the peer of a connection may throw. -/
def faults (script : SocketScript) : List Fault :=
  script.arrivals.filterMap Arrival.fault? ++ (script.sendFault.map Prod.snd).toList ++
    script.connectFault.toList ++ script.wrapFault.toList

theorem mem_faults_of_connect {script : SocketScript} {cause : Fault}
    (h : script.connectFault = some cause) : cause ∈ script.faults := by
  simp [faults, h]

theorem mem_faults_of_wrap {script : SocketScript} {cause : Fault}
    (h : script.wrapFault = some cause) : cause ∈ script.faults := by
  simp [faults, h]

end SocketScript

namespace Network

/-- All faults that a network may still throw. -/
def faults (network : Network) : List Fault :=
  network.scripts.flatMap SocketScript.faults ++ network.hosts.filterMap fun host => host.2.fault?

theorem mem_faults_of_script {network : Network} {script : SocketScript} {cause : Fault}
    (hscript : script ∈ network.scripts) (hcause : cause ∈ script.faults) :
    cause ∈ network.faults :=
  List.mem_append_left _ (List.mem_flatMap.mpr ⟨script, hscript, hcause⟩)

theorem mem_faults_of_lookup {network : Network} {host : Text} {cause : Fault}
    (h : network.hosts.lookup host = some (.fault cause)) : cause ∈ network.faults := by
  apply List.mem_append_right
  rw [List.mem_filterMap]
  obtain ⟨before, after, hhosts, -⟩ := List.lookup_eq_some_iff.mp h
  refine ⟨(host, .fault cause), ?_, rfl⟩
  rw [hhosts]
  simp

/-- One network later than another, with what was looked up in between. -/
structure Proceeds (retired : List Socket) (opened : Nat) (asked : List (Text × Int))
    (before after : Network) : Prop extends Opens retired opened before after where
  hosts_subset : after.hosts ⊆ before.hosts
  lookups_eq : after.lookups = before.lookups ++ asked

namespace Proceeds

theorem of_opens {before after : Network} {retired : List Socket} {opened : Nat}
    (h : before.Opens retired opened after) (hhosts : after.hosts = before.hosts)
    (hlookups : after.lookups = before.lookups) : before.Proceeds retired opened [] after :=
  ⟨h, hhosts ▸ List.Subset.refl _, hlookups.trans (List.append_nil _).symm⟩

theorem refl (network : Network) : network.Proceeds [] 0 [] network :=
  .of_opens (.refl network) rfl rfl

theorem trans {before between after : Network} {retired more : List Socket}
    {opened further : Nat} {asked others : List (Text × Int)}
    (hfirst : before.Proceeds retired opened asked between)
    (hsecond : between.Proceeds more further others after) :
    before.Proceeds (retired ++ more) (opened + further) (asked ++ others) after where
  toOpens := hfirst.toOpens.trans hsecond.toOpens
  hosts_subset := List.Subset.trans hsecond.hosts_subset hfirst.hosts_subset
  lookups_eq := by rw [hsecond.lookups_eq, hfirst.lookups_eq, List.append_assoc]

theorem retire {before after : Network} {opened : Nat} {asked : List (Text × Int)}
    (h : before.Proceeds [] opened asked after) (socket : Socket) :
    before.Proceeds [socket] opened asked (after.retire socket) := by
  have hretired := h.trans (.of_opens (.retire after socket) rfl rfl)
  rwa [List.append_nil] at hretired

/-- A network that opened some of its connections holds no new fault. -/
theorem faults_subset {before after : Network} {retired : List Socket} {opened : Nat}
    {asked : List (Text × Int)} (h : before.Proceeds retired opened asked after) :
    after.faults ⊆ before.faults := by
  intro cause hcause
  unfold faults at hcause ⊢
  rw [h.scripts_eq] at hcause
  rcases List.mem_append.mp hcause with hscripts | hlookups
  · apply List.mem_append_left
    obtain ⟨script, hscript, hheld⟩ := List.mem_flatMap.mp hscripts
    exact List.mem_flatMap.mpr ⟨script, List.mem_of_mem_drop hscript, hheld⟩
  · exact List.mem_append_right _ (List.filterMap_subset _ h.hosts_subset hlookups)

end Proceeds

/-- The script of the next socket is one of the network, unless connecting is refused. -/
theorem headD_mem {network : Network} {cause? : Option Fault}
    (h : (network.scripts.headD refusal).connectFault = cause?)
    (hcause : ∀ cause ∈ cause?, cause.family.isSystem = false) :
    network.scripts.headD refusal ∈ network.scripts := by
  cases hscripts : network.scripts with
  | nil =>
      -- Without a script the socket meets the refusal, whose fault is one of the system.
      rw [hscripts] at h
      subst h
      exact absurd (hcause _ rfl) (by decide)
  | cons script scripts => exact List.mem_cons_self

end Network

/-! ## The calls -/

/-- What sets a timeout before a socket connects: nothing unless the timeout takes effect. -/
def SocketEvent.timing (timeout : Option Double) : List SocketEvent :=
  (effectiveTimeout timeout).toList.map fun seconds => .setTimeout (some seconds)

/-- The calls on a socket that is connected within a timeout, as far as they get.  What fails may
be followed by a closing. -/
inductive SocketEvent.Dialling (timeout : Option Double) : List SocketEvent → Prop
  | refused (address : Address) {closing : List SocketEvent}
      (hclosing : closing = [] ∨ closing = [.close]) :
      Dialling timeout (timing timeout ++ .connect address false :: closing)
  | connected (address : Address) :
      Dialling timeout (timing timeout ++ [.connect address true, .setTimeout none])
  | wrapped (address : Address) (serverName : Text) (succeeded : Bool)
      {closing : List SocketEvent} (hclosing : closing = [] ∨ closing = [.close]) :
      Dialling timeout (timing timeout ++
        .connect address true :: .setTimeout none :: .wrap serverName succeeded :: closing)

namespace Socket

open SocketEvent

variable {script : SocketScript} {cause : Fault}

/-- A socket that connected. -/
theorem connected_of_connect (hconnect : script.connectFault = none) (timeout : Option Double)
    (address : Address) :
    Connected ⟨script, timing timeout ++ [.connect address true, .setTimeout none]⟩ ∧
      isWrapped ⟨script, timing timeout ++ [.connect address true, .setTimeout none]⟩ = false := by
  refine ⟨⟨?_, ?_, ?_, ?_⟩, ?_⟩ <;>
    simp [offered, isWrapped, isClosed, isConnected, isStranded, tlsName?, timing, offered?, wraps,
      hconnect]

/-- A socket that connected and on which TLS began. -/
theorem connected_of_wrap (hconnect : script.connectFault = none) (hwrap : script.wrapFault = none)
    (timeout : Option Double) (address : Address) (serverName : Text) :
    Connected ⟨script, timing timeout ++
        [.connect address true, .setTimeout none, .wrap serverName true]⟩ ∧
      isWrapped ⟨script, timing timeout ++
        [.connect address true, .setTimeout none, .wrap serverName true]⟩ = true := by
  refine ⟨⟨?_, ?_, ?_, ?_⟩, ?_⟩ <;>
    simp [offered, isWrapped, isClosed, isConnected, isStranded, timing, offered?, wraps, hconnect,
      hwrap]

/-- A socket that could not connect, closed if the fault is one of the system. -/
theorem unused_of_refused (hfault : script.connectFault = some cause) (timeout : Option Double)
    (address : Address) {closing : List SocketEvent}
    (hclosing : closing = if cause.family.isSystem then [.close] else []) :
    Unused ⟨script, timing timeout ++ .connect address false :: closing⟩ := by
  subst hclosing
  cases hsystem : cause.family.isSystem <;> constructor <;>
    simp [offered, isWrapped, isClosed, isStranded, tlsName?, timing, offered?, wraps, hfault,
      hsystem]

/-- A socket on which TLS could not begin, closed if the fault is one of TLS or of a value. -/
theorem unused_of_unwrapped (hconnect : script.connectFault = none)
    (hfault : script.wrapFault = some cause) (timeout : Option Double) (address : Address)
    (serverName : Text) {closing : List SocketEvent}
    (hclosing : closing = if cause.family.isTls || cause.family.isValue then [.close] else []) :
    Unused ⟨script, timing timeout ++
      .connect address true :: .setTimeout none :: .wrap serverName false :: closing⟩ := by
  subst hclosing
  cases hknown : cause.family.isTls || cause.family.isValue <;> constructor <;>
    simp [offered, isWrapped, isClosed, isStranded, tlsName?, timing, offered?, wraps, hfault,
      hconnect, hknown]

end Socket

namespace Network

def timed (timeout : Option Double) (socket : Socket) : Socket :=
  match effectiveTimeout timeout with
  | none => socket
  | some seconds => socket.setTimeout (some seconds)

theorem timed_eq (timeout : Option Double) (script : SocketScript) :
    timed timeout (.ofScript script) = ⟨script, SocketEvent.timing timeout⟩ := by
  unfold timed SocketEvent.timing
  cases effectiveTimeout timeout <;> rfl

/-- What becomes of a network and a socket that was told to connect. -/
def dialled (network : Network) :
    EStateM.Result Failure Socket Unit → EStateM.Result Failure Network Socket
  | .ok () socket => .ok (socket.setTimeout none) network
  | .error (.fault cause) socket =>
    if cause.family.isSystem then
      .error (.unconnected (refusalText cause)) (network.retire socket.close)
    else .error (.fault cause) (network.retire socket)
  | .error failure socket => .error failure (network.retire socket)

theorem dial_eq (timeout : Option Double) (address : Address) (network : Network) :
    dial timeout address network =
      match (network.scripts.headD refusal).connectFault with
      | none =>
        .ok (((timed timeout network.create.1).record (.connect address true)).setTimeout none)
          network.create.2
      | some cause =>
        let failed := (timed timeout network.create.1).record (.connect address false)
        if cause.family.isSystem then
          .error (.unconnected (refusalText cause)) (network.create.2.retire failed.close)
        else .error (.fault cause) (network.create.2.retire failed) := by
  have htimed : timed timeout network.create.1 =
      ⟨network.scripts.headD refusal, SocketEvent.timing timeout⟩ := timed_eq timeout _
  have hdial : dial timeout address network =
      network.create.2.dialled (Socket.connect address (timed timeout network.create.1)) := rfl
  rw [hdial, htimed, Socket.connect]
  dsimp only
  cases (network.scripts.headD refusal).connectFault with
  | none => rfl
  | some cause => rfl

/-- A failure that connecting over a network may end with: a fault is one that the network holds. -/
structure Throws (network : Network) (failure : Failure) : Prop where
  ofConnecting : failure.ofConnecting = true
  held : ∀ cause, failure = .fault cause → cause ∈ network.faults

theorem Throws.fault {network : Network} {cause : Fault} (h : cause ∈ network.faults) :
    network.Throws (.fault cause) := by
  refine ⟨rfl, ?_⟩
  rintro _ ⟨⟩
  exact h

theorem Throws.own (network : Network) {failure : Failure}
    (hconnecting : failure.ofConnecting = true) (hown : failure.isOwn = true) :
    network.Throws failure := by
  refine ⟨hconnecting, ?_⟩
  rintro cause rfl
  cases hown

/-- How an attempt to connect within a timeout can go: it opens no socket, it gives one up unused,
or it makes something of one. -/
inductive Attempts {α : Type} (timeout : Option Double) (Makes : Socket → α → Prop)
    (asked : List (Text × Int)) (before : Network) : EStateM.Result Failure Network α → Prop
  | unopened {failure : Failure} {after : Network} (hlater : before.Proceeds [] 0 asked after)
      (hthrows : before.Throws failure) : Attempts timeout Makes asked before (.error failure after)
  | abandoned {failure : Failure} {after : Network} {socket : Socket}
      (hlater : before.Proceeds [socket] 1 asked after)
      (hcalls : SocketEvent.Dialling timeout socket.history) (hunused : socket.Unused)
      (hthrows : before.Throws failure) : Attempts timeout Makes asked before (.error failure after)
  | opened {a : α} {after : Network} {socket : Socket}
      (hlater : before.Proceeds [] 1 asked after)
      (hcalls : SocketEvent.Dialling timeout socket.history)
      (hscript : socket.script ∈ before.scripts) (hmade : Makes socket a) :
      Attempts timeout Makes asked before (.ok a after)

/-- A socket as it is handed on once it is connected. -/
def HandsOn (timeout : Option Double) (socket handed : Socket) : Prop :=
  handed = socket ∧ socket.script.connectFault = none ∧ ∃ address,
    socket.history = SocketEvent.timing timeout ++ [.connect address true, .setTimeout none]

theorem dial_attempts (timeout : Option Double) (address : Address) (network : Network) :
    Attempts timeout (HandsOn timeout) [] network (dial timeout address network) := by
  have hcreated : timed timeout network.create.1 =
      ⟨network.scripts.headD refusal, SocketEvent.timing timeout⟩ := timed_eq timeout _
  have hlater : network.Proceeds [] 1 [] network.create.2 := .of_opens (.create network) rfl rfl
  rw [dial_eq, hcreated]
  cases hfault : (network.scripts.headD refusal).connectFault with
  | none =>
      have hcalls := @SocketEvent.Dialling.connected timeout address
      have hscript := headD_mem hfault (by rintro _ ⟨⟩)
      refine .opened hlater ?_ hscript ⟨rfl, hfault, address, ?_⟩
      · simpa [Socket.setTimeout, Socket.record] using hcalls
      · simp [Socket.setTimeout, Socket.record]
  | some cause =>
      dsimp only
      split
      next hsystem =>
        have hcalls := @SocketEvent.Dialling.refused timeout address _ (Or.inr rfl)
        have hunused := Socket.unused_of_refused hfault timeout address (if_pos hsystem).symm
        refine .abandoned (hlater.retire _) ?_ ?_ (.own _ rfl rfl)
        · simpa [Socket.close, Socket.record] using hcalls
        · simpa [Socket.close, Socket.record] using hunused
      next hother =>
        have hscript := headD_mem hfault (by simpa using hother)
        exact .abandoned (hlater.retire _) (.refused address (Or.inl rfl))
          (Socket.unused_of_refused hfault timeout address (if_neg hother).symm)
          (.fault (mem_faults_of_script hscript (SocketScript.mem_faults_of_connect hfault)))

/-- What happens before a socket is opened does not change how that goes. -/
theorem Attempts.after {α : Type} {timeout : Option Double} {Makes : Socket → α → Prop}
    {asked others : List (Text × Int)} {before between : Network}
    {result : EStateM.Result Failure Network α}
    (hbefore : before.Proceeds [] 0 asked between)
    (h : Attempts timeout Makes others between result) :
    Attempts timeout Makes (asked ++ others) before result := by
  have hthrown {failure : Failure} (hthrows : between.Throws failure) : before.Throws failure :=
    ⟨hthrows.ofConnecting, fun cause hcause => hbefore.faults_subset (hthrows.held cause hcause)⟩
  cases h with
  | unopened hlater hthrows => exact .unopened (hbefore.trans hlater) (hthrown hthrows)
  | abandoned hlater hcalls hunused hthrows =>
      have hall := hbefore.trans hlater
      rw [List.nil_append, Nat.zero_add] at hall
      exact .abandoned hall hcalls hunused (hthrown hthrows)
  | opened hlater hcalls hscript hmade =>
      have hall := hbefore.trans hlater
      rw [List.nil_append, Nat.zero_add] at hall
      rw [hbefore.scripts_eq] at hscript
      exact .opened hall hcalls hscript hmade

theorem dialHost_attempts (request : Request) (host : Text) (port : Int) (network : Network) :
    Attempts request.connectTimeout (HandsOn request.connectTimeout) [(host, port)] network
      (dialHost request host port network) := by
  have hasked : network.Proceeds [] 0 [(host, port)] (network.ask host port) :=
    ⟨⟨(List.append_nil _).symm, rfl⟩, answersAfter_subset host network.hosts, rfl⟩
  unfold dialHost resolve
  dsimp only
  cases hlookup : (network.hosts.lookup host).getD elsewhere with
  | addresses list =>
      cases list with
      | nil => exact .unopened hasked (.own _ rfl rfl)
      | cons first rest =>
          have hdial := dial_attempts request.connectTimeout ⟨first.1, first.2, port⟩
          exact .after hasked (.after (.of_opens (.note ..) rfl rfl) (hdial _))
  | fault cause =>
      have hheld : cause ∈ network.faults := by
        cases hknown : network.hosts.lookup host with
        | none =>
            rw [hknown] at hlookup
            cases hlookup
        | some lookup =>
            rw [hknown] at hlookup
            cases hlookup
            exact mem_faults_of_lookup hknown
      dsimp only
      split_ifs with hsystem
      · exact .unopened hasked (.own _ rfl rfl)
      · exact .unopened hasked (.fault hheld)

/-! ## Connections -/

/-- A connection over a socket that nothing was done with yet, with the timeouts of a request. -/
def Carries (request : Request) (isTls : Bool) (socket : Socket) (transport : Transport) : Prop :=
  transport = .make socket isTls request.readTimeout request.writeTimeout ∧ socket.Connected ∧
    socket.isWrapped = isTls

theorem connectPlain_attempts (request : Request) (host : Text) (url : Url) (network : Network) :
    Attempts request.connectTimeout (Carries request false) [(host, portOf url "http")] network
      (connectPlain request host url network) := by
  have hdial := dialHost_attempts request host (portOf url "http") network
  unfold connectPlain
  generalize dialHost request host (portOf url "http") network = dialled at hdial
  cases hdial with
  | unopened hlater hthrows => exact .unopened hlater hthrows
  | abandoned hlater hcalls hunused hthrows => exact .abandoned hlater hcalls hunused hthrows
  | @opened socket after _ hlater hcalls hscript hmade =>
      obtain ⟨rfl, hconnect, address, hhistory⟩ := hmade
      have hconnected := Socket.connected_of_connect hconnect request.connectTimeout address
      rw [← hhistory] at hconnected
      exact .opened hlater hcalls hscript ⟨rfl, hconnected⟩

theorem connectTls_attempts (request : Request) (host : Text) (url : Url) (network : Network) :
    Attempts request.connectTimeout (Carries request true)
      (if Host.isServerName host then [(host, portOf url "https")] else []) network
      (connectTls request host url network) := by
  have hdial := dialHost_attempts request host (portOf url "https") network
  unfold connectTls
  cases Host.isServerName host with
  | false => exact .unopened (.refl network) (.own _ rfl rfl)
  | true =>
      simp only [Bool.not_true, Bool.false_eq_true, if_false, if_true]
      generalize dialHost request host (portOf url "https") network = dialled at hdial
      cases hdial with
      | unopened hlater hthrows => exact .unopened hlater hthrows
      | abandoned hlater hcalls hunused hthrows => exact .abandoned hlater hcalls hunused hthrows
      | @opened socket after _ hlater hcalls hscript hmade =>
          obtain ⟨rfl, hconnect, address, hhistory⟩ := hmade
          have hwrapped : ∀ succeeded closing, socket.history ++ .wrap host succeeded :: closing =
              SocketEvent.timing request.connectTimeout ++ .connect address true ::
                .setTimeout none :: .wrap host succeeded :: closing := by
            intro succeeded closing
            rw [hhistory, List.append_assoc]
            rfl
          cases hfault : socket.script.wrapFault with
          | none =>
              have hwrap : Socket.wrap host socket = .ok () (socket.record (.wrap host true)) := by
                rw [Socket.wrap, hfault]
              simp only [hwrap]
              have hrecord : socket.record (.wrap host true) = ⟨socket.script, _⟩ :=
                congrArg (Socket.mk _) (hwrapped true [])
              rw [hrecord]
              refine @Attempts.opened _ _ _ _ _ _ _ ⟨socket.script, _⟩ hlater
                (.wrapped address host true (Or.inl rfl)) hscript ⟨rfl, ?_⟩
              exact Socket.connected_of_wrap hconnect hfault request.connectTimeout address host
          | some cause =>
              have hwrap : Socket.wrap host socket =
                  .error (.fault cause) (socket.record (.wrap host false)) := by
                rw [Socket.wrap, hfault]
              have hunused {closing : List SocketEvent} := @Socket.unused_of_unwrapped socket.script
                cause hconnect hfault request.connectTimeout address host closing
              simp only [hwrap]
              split
              next hknown =>
                have hclosed : (socket.record (.wrap host false)).close = ⟨socket.script, _⟩ :=
                  congrArg (Socket.mk _) ((List.append_assoc ..).trans (hwrapped false [.close]))
                rw [hclosed]
                exact .abandoned (hlater.retire _) (.wrapped address host false (Or.inr rfl))
                  (hunused (if_pos hknown).symm) (.own _ rfl rfl)
              next hother =>
                have hrecord : socket.record (.wrap host false) = ⟨socket.script, _⟩ :=
                  congrArg (Socket.mk _) (hwrapped false [])
                rw [hrecord]
                exact .abandoned (hlater.retire _) (.wrapped address host false (Or.inl rfl))
                  (hunused (if_neg hother).symm)
                  (.fault (mem_faults_of_script hscript (SocketScript.mem_faults_of_wrap hfault)))

/-- What connecting to a URL looks up: its host, unless the URL is refused before. -/
def lookupsOf (url : Url) : List (Text × Int) :=
  if url.scheme.lower = "http".toList ∨ url.scheme.lower = "https".toList then
    match url.hostname with
    | .error _ => []
    | .ok host =>
      if url.isSecure then if Host.isServerName host then [(host, portOf url "https")] else []
      else [(host, portOf url "http")]
  else []

/-- An attempt to connect goes one of these ways, whatever the URL. -/
theorem connect_attempts (request : Request) (url : Url) (network : Network) :
    Attempts request.connectTimeout (Carries request url.isSecure) (lookupsOf url) network
      (connect request url network) := by
  unfold connect lookupsOf
  dsimp only
  split
  next =>
    cases hhost : url.hostname with
    | error failure =>
        exact .unopened (.refl network)
          (.own _ (Url.hostname_failsAs url _ hhost) (Url.isOwn_of_hostname hhost))
    | ok host =>
        dsimp only
        cases url.isSecure with
        | true => exact connectTls_attempts request host url network
        | false => exact connectPlain_attempts request host url network
  next => exact .unopened (.refl network) (.own _ rfl rfl)

section Outcomes

variable {request : Request} {url : Url} {network network' : Network}

/-- A connection that is made takes one script and gives up nothing.  It is over TLS exactly for a
URL that says so. -/
theorem connect_ok {transport : Transport}
    (h : connect request url network = .ok transport network') :
    network.Opens [] 1 network' ∧ transport.socket.Connected ∧
      transport.socket.isWrapped = url.isSecure := by
  have hattempts := connect_attempts request url network
  rw [h] at hattempts
  cases hattempts with
  | opened hlater hcalls hscript hmade =>
      obtain ⟨rfl, hconnected, hwrapped⟩ := hmade
      exact ⟨hlater.toOpens, hconnected, hwrapped⟩

/-- A connection that fails gives up all that it opened. -/
theorem connect_error {failure : Failure}
    (h : connect request url network = .error failure network') : network.Abandons network' := by
  have hattempts := connect_attempts request url network
  rw [h] at hattempts
  cases hattempts with
  | unopened hlater hthrows => exact .of_none hlater.toOpens
  | abandoned hlater hcalls hunused hthrows =>
      exact ⟨_, hlater.toOpens, le_refl 1, List.forall_mem_singleton.mpr hunused⟩

/-- A connection that fails throws no fault that the network did not hold, and adds none to it. -/
theorem connect_throws {failure : Failure}
    (h : connect request url network = .error failure network') :
    network.Throws failure ∧ network'.faults ⊆ network.faults := by
  have hattempts := connect_attempts request url network
  rw [h] at hattempts
  cases hattempts with
  | unopened hlater hthrows => exact ⟨hthrows, hlater.faults_subset⟩
  | abandoned hlater hcalls hunused hthrows => exact ⟨hthrows, hlater.faults_subset⟩

end Outcomes

theorem connect_lookups (network : Network) (request : Request) (url : Url) :
    (Step.left (connect request url network)).lookups = network.lookups ++ lookupsOf url := by
  have hattempts := connect_attempts request url network
  generalize connect request url network = result at hattempts
  cases hattempts with
  | unopened hlater hthrows => exact hlater.lookups_eq
  | abandoned hlater hcalls hunused hthrows => exact hlater.lookups_eq
  | opened hlater hcalls hscript hmade => exact hlater.lookups_eq

end Network

end HttpFetch
