import HttpFetch.Network
import HttpFetch.Proofs.Stream.Transfer

/-!
# Sockets that are opened

Between two states of a network some sockets were opened, each for a script of its own, and some
were given up (`Network.Opens`).  A connected socket is open and nothing was done with it.  One that
was given up before it could be used is closed, unless it failed at a stage whose handler does not
know the fault; then it is called stranded.
-/

namespace HttpFetch

namespace SocketEvent

/-- The octets that a call tries to send. -/
def offered? : SocketEvent → Option Bytes
  | send octets _ => some octets
  | _ => none

/-- Whether a call began TLS. -/
def wraps : SocketEvent → Bool
  | wrap _ true => true
  | _ => false

end SocketEvent

namespace Socket

/-- The octets of every call to send, whether it succeeded or not. -/
def offered (socket : Socket) : List Bytes := socket.history.filterMap SocketEvent.offered?

def isWrapped (socket : Socket) : Bool := socket.history.any SocketEvent.wraps

theorem sent_of_offered {socket : Socket} (h : socket.offered = []) : socket.sent = [] := by
  rw [offered, List.filterMap_eq_nil_iff] at h
  refine List.filterMap_eq_nil_iff.mpr fun event hevent => ?_
  have hnone := h event hevent
  cases event with
  | send octets succeeded => cases hnone
  | setTimeout | connect | wrap | receive | close => rfl

/-- Whether a socket was given up over a fault that is not of the system while connecting, or is
neither of TLS nor of a value while TLS began. -/
def isStranded (socket : Socket) : Bool :=
  socket.script.connectFault.any (fun cause => !cause.family.isSystem) ||
    (socket.tlsName?.isSome &&
      socket.script.wrapFault.any fun cause => !(cause.family.isTls || cause.family.isValue))

/-- A socket that is connected and that nothing was done with. -/
structure Connected (socket : Socket) : Prop where
  offered_eq : socket.offered = []
  isClosed_eq : socket.isClosed = false
  isConnected_eq : socket.isConnected = true
  isStranded_eq : socket.isStranded = false

/-- A socket that was given up before anything was sent. -/
structure Unused (socket : Socket) : Prop where
  offered_eq : socket.offered = []
  isWrapped_eq : socket.isWrapped = false
  isClosed_eq : socket.isClosed = !socket.isStranded

theorem Connected.sent_eq {socket : Socket} (h : socket.Connected) : socket.sent = [] :=
  sent_of_offered h.offered_eq

theorem Unused.sent_eq {socket : Socket} (h : socket.Unused) : socket.sent = [] :=
  sent_of_offered h.offered_eq

end Socket

namespace Network

/-- One network later than another: the sockets given up in between, and how many were opened. -/
structure Opens (retired : List Socket) (opened : Nat) (before after : Network) : Prop where
  sockets_eq : after.sockets = before.sockets ++ retired
  scripts_eq : after.scripts = before.scripts.drop opened

namespace Opens

theorem refl (network : Network) : network.Opens [] 0 network :=
  ⟨(List.append_nil _).symm, rfl⟩

theorem trans
    {retired more : List Socket} {opened further : Nat} {before between after : Network}
    (hfirst : before.Opens retired opened between) (hsecond : between.Opens more further after) :
    before.Opens (retired ++ more) (opened + further) after where
  sockets_eq := by rw [hsecond.sockets_eq, hfirst.sockets_eq, List.append_assoc]
  scripts_eq := by rw [hsecond.scripts_eq, hfirst.scripts_eq, List.drop_drop]

theorem note (network : Network) (source : NoteSource) (text : Text) :
    network.Opens [] 0 (network.note source text) :=
  ⟨(List.append_nil _).symm, rfl⟩

theorem retire (network : Network) (socket : Socket) :
    network.Opens [socket] 0 (network.retire socket) :=
  ⟨rfl, rfl⟩

theorem foldl
    {α : Type} {f : Network → α → Network}
    (h : ∀ (network : Network) (a : α), network.Opens [] 0 (f network a))
    (list : List α) (network : Network) : network.Opens [] 0 (list.foldl f network) := by
  induction list generalizing network with
  | nil => exact refl network
  | cons a list ih => exact (h network a).trans (ih (f network a))

theorem create (network : Network) : network.Opens [] 1 network.create.2 :=
  ⟨(List.append_nil _).symm, List.drop_one.symm⟩

end Opens

/-- A network later than another, when at most one socket was opened in between and it was given up
unused. -/
def Abandons (before after : Network) : Prop :=
  ∃ created : List Socket, before.Opens created created.length after ∧ created.length ≤ 1 ∧
    ∀ socket ∈ created, socket.Unused

theorem Abandons.of_none {before after : Network} (h : before.Opens [] 0 after) :
    before.Abandons after :=
  ⟨[], h, Nat.zero_le 1, fun _ hsocket => absurd hsocket List.not_mem_nil⟩

theorem Abandons.of_opens
    {before between after : Network} (hfirst : before.Opens [] 0 between)
    (hsecond : between.Abandons after) : before.Abandons after := by
  obtain ⟨created, hopens, hone, hunused⟩ := hsecond
  have h := hfirst.trans hopens
  rw [List.nil_append, Nat.zero_add] at h
  exact ⟨created, h, hone, hunused⟩

end Network

end HttpFetch
