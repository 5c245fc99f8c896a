import HttpFetch.Proofs.Exchange.Dialling
import HttpFetch.Proofs.Exchange.Visits
import HttpFetch.Proofs.Response.Keeping

/-!
# What a chain keeps

A chain works on a network, on one connection after the other and on a payload.  An invariant of it
(`Exchange.Invariant`) is a property of each of them that the few calls they offer keep: connecting,
reading, writing and closing, taking the payload, writing a note and giving a socket up.  Every step
of a hop is shown once to keep every invariant, and `Exchange.Invariant.run` carries it through the
hops by induction.  The failures that may come of the calls go with it.
-/

namespace HttpFetch

theorem Failure.isOwn_of_ofStoring {failure : Failure} (h : failure.ofStoring = true) :
    failure.isOwn = true := by
  cases failure with
  | fault cause => cases h
  | _ => rfl

theorem Request.isOwn_of_prelude {request : Request} {method : Text} {url : Url}
    {cookies : Headers} {failure : Failure}
    (h : request.prelude method url cookies = .error failure) : failure.isOwn = true := by
  unfold prelude at h
  split at h <;> cases h
  rfl

theorem Hop.isOwn_of_target {hop : Hop} {head : ResponseHead} {failure : Failure}
    (h : hop.target head = .error failure) : failure.isOwn = true := by
  unfold target at h
  split at h
  next =>
    cases h
    rfl
  next =>
    unfold Url.redirect at h
    split at h <;> cases h
    rfl

/-- What holds of the connection and of the payload of an upload. -/
def Upload.Holds (OfTransport : Transport → Prop) (OfPayload : Payload → Prop) (upload : Upload) :
    Prop :=
  OfTransport upload.transport ∧ OfPayload upload.payload

/-- What holds of the connection and of the payload of a hop under way. -/
def HopState.Holds (OfTransport : Transport → Prop) (OfPayload : Payload → Prop)
    (state : HopState) : Prop :=
  OfTransport state.reader.transport ∧ OfPayload state.payload

namespace Exchange

/-- Properties of the network, of a connection and of the payload that a chain of hops works on,
with the kind of failures that may end it. -/
structure Invariant (request : Request) (OfNetwork : Network → Prop)
    (OfTransport : Transport → Prop) (OfPayload : Payload → Prop) (allowed : Failure → Prop) :
    Prop where
  connect_ok : ∀ url network transport after, OfNetwork network →
    Network.connect request url network = .ok transport after →
      OfNetwork after ∧ OfTransport transport
  connect_error : ∀ url network failure after, OfNetwork network →
    Network.connect request url network = .error failure after →
      OfNetwork after ∧ allowed failure
  note : ∀ network source text, OfNetwork network → OfNetwork (network.note source text)
  retire : ∀ network transport, OfNetwork network → OfTransport transport →
    OfNetwork (network.retire transport.socket)
  read : Step.Keeps OfTransport allowed (Transport.read readChunkSize)
  write : ∀ octets, Step.Keeps OfTransport allowed (Transport.write octets)
  close : ∀ transport, OfTransport transport → OfTransport transport.close
  consume : Step.Keeps OfPayload allowed Payload.consume
  take : Step.Keeps OfPayload allowed (Payload.read uploadChunkSize)
  empty : OfPayload .empty
  own : ∀ failure, failure.isOwn = true → allowed failure

namespace Invariant

variable {request : Request} {OfNetwork : Network → Prop} {OfTransport : Transport → Prop}
  {OfPayload : Payload → Prop} {allowed : Failure → Prop}
  (h : Invariant request OfNetwork OfTransport OfPayload allowed)
include h

theorem reader : Reader.Invariant (fun reader => OfTransport reader.transport) allowed :=
  .of_transport h.read h.own

theorem closeReader (reader : Reader) (hreader : OfTransport reader.transport) :
    OfTransport reader.close.transport :=
  h.close _ hreader

/-! ## Sending the payload -/

theorem writeChunk (octets : Bytes) : Step.Keeps OfTransport allowed (Chunked.write octets) := by
  unfold Chunked.write
  split
  · exact .pure ()
  · exact h.write _

theorem pipe {write : Bytes → Step Transport Unit}
    (hwrite : ∀ octets, Step.Keeps OfTransport allowed (write octets)) (total : Nat) :
    Step.Keeps (Upload.Holds OfTransport OfPayload) allowed (Upload.pipe write total) := by
  intro upload hupload
  obtain ⟨htransport, hpayload⟩ := hupload
  fun_induction Upload.pipe write total upload with
  | case1 total upload failure payload hread =>
      obtain ⟨hleft, hfailure⟩ := h.take.error hpayload hread
      exact ⟨⟨htransport, hleft⟩, hfailure⟩
  | case2 total upload payload hread => exact ⟨htransport, h.take.ok hpayload hread⟩
  | case3 total upload b octets payload hread transport hwritten ih =>
      exact ih ((hwrite _).ok htransport hwritten) (h.take.ok hpayload hread)
  | case4 total upload b octets payload hread failure transport hfailed =>
      obtain ⟨hleft, hfailure⟩ := (hwrite _).error htransport hfailed
      exact ⟨⟨hleft, h.take.ok hpayload hread⟩, hfailure⟩

theorem send (sent : Request) :
    Step.Keeps (Upload.Holds OfTransport OfPayload) allowed (Upload.send sent) := by
  intro upload hupload
  obtain ⟨htransport, hpayload⟩ := hupload
  unfold Upload.send
  split
  next failure payload hconsume =>
    obtain ⟨hleft, hfailure⟩ := h.consume.error hpayload hconsume
    exact ⟨⟨htransport, hleft⟩, hfailure⟩
  next size payload hconsume =>
    have hconsumed : Upload.Holds OfTransport OfPayload ⟨payload, upload.transport⟩ :=
      ⟨htransport, h.consume.ok hpayload hconsume⟩
    dsimp only
    split
    next =>
      have hpipe := h.pipe h.writeChunk 0
      split
      next failure after hpiped => exact hpipe.error hconsumed hpiped
      next total after hpiped =>
        obtain ⟨hconnection, hrest⟩ := hpipe.ok hconsumed hpiped
        split
        next transport hfinish => exact ⟨(h.write _).ok hconnection hfinish, hrest⟩
        next failure transport hfinish =>
          obtain ⟨hleft, hfailure⟩ := (h.write _).error hconnection hfinish
          exact ⟨⟨hleft, hrest⟩, hfailure⟩
    next => exact h.pipe h.write 0 _ hconsumed

/-! ## The steps of a hop -/

theorem sendPrelude (hop : Hop) (cookies : Headers) :
    Step.Keeps (HopState.Holds OfTransport OfPayload) allowed (hop.sendPrelude cookies) := by
  intro state hstate
  unfold Hop.sendPrelude
  split
  next failure hprelude => exact ⟨hstate, h.own _ (Request.isOwn_of_prelude hprelude)⟩
  next octets hprelude =>
    split
    next transport hwrite => exact ⟨(h.write _).ok hstate.1 hwrite, hstate.2⟩
    next failure transport hwrite =>
      obtain ⟨hleft, hfailure⟩ := (h.write _).error hstate.1 hwrite
      exact ⟨⟨hleft, hstate.2⟩, hfailure⟩

theorem readHead :
    Step.Keeps (HopState.Holds OfTransport OfPayload) allowed Hop.readHead := by
  intro state hstate
  unfold Hop.readHead
  split
  next head reader hread => exact ⟨h.reader.readHead.ok hstate.1 hread, hstate.2⟩
  next failure reader hread =>
    obtain ⟨hleft, hfailure⟩ := h.reader.readHead.error hstate.1 hread
    exact ⟨⟨hleft, hstate.2⟩, hfailure⟩

theorem storeCookies (hop : Hop) (host : Text) (head : ResponseHead) :
    Step.Keeps (HopState.Holds OfTransport OfPayload) allowed (hop.storeCookies host head) := by
  intro state hstate
  have hfails := hop.storeCookies_failsAs host head state
  unfold Hop.storeCookies at hfails ⊢
  split
  next => exact hstate
  next jar hjar =>
    rw [hjar] at hfails
    dsimp only at hfails ⊢
    split
    next => exact hstate
    next failure hstored =>
      rw [hstored] at hfails
      exact ⟨hstate, h.own _ (Failure.isOwn_of_ofStoring (hfails _ _ rfl))⟩

theorem sendPayload (hop : Hop) :
    Step.Keeps (HopState.Holds OfTransport OfPayload) allowed hop.sendPayload := by
  intro state hstate
  have hsend := h.send hop.request
  have hupload : Upload.Holds OfTransport OfPayload ⟨state.payload, state.reader.transport⟩ :=
    hstate
  unfold Hop.sendPayload
  split
  next total upload hsent => exact hsend.ok hupload hsent
  next failure upload hsent => exact hsend.error hupload hsent

theorem afterHead (hop : Hop) (head : ResponseHead) :
    Step.Keeps (HopState.Holds OfTransport OfPayload) allowed (hop.afterHead head) := by
  unfold Hop.afterHead
  split
  next =>
    cases htarget : hop.target head with
    | error failure => exact .throw (h.own _ (Hop.isOwn_of_target htarget))
    | ok next =>
        dsimp only
        split
        next => exact .bind (h.sendPayload hop) fun _ => .pure _
        next => exact .pure _
  next => exact .bind (h.sendPayload hop) fun _ => .pure _

theorem perform (hop : Hop) (host : Text) (cookies : Headers) :
    Step.Keeps (HopState.Holds OfTransport OfPayload) allowed (hop.perform host cookies) := by
  change Step.Keeps _ allowed (do
    hop.sendPrelude cookies
    let head ← Hop.readHead
    hop.storeCookies host head
    hop.afterHead head)
  refine .bind (h.sendPrelude hop cookies) fun _ => .bind h.readHead fun head => ?_
  exact .bind (h.storeCookies hop host head) fun _ => h.afterHead hop head

/-! ## The hops of a chain -/

theorem foldl_note {α : Type} (list : List α) (source : NoteSource) (text : α → Text)
    {network : Network} (hnetwork : OfNetwork network) :
    OfNetwork (list.foldl (fun network a => network.note source (text a)) network) := by
  induction list generalizing network with
  | nil => exact hnetwork
  | cons a list ih => exact ih (h.note _ _ _ hnetwork)

variable {hop : Hop} {exchange : Exchange}

theorem absorb (host : Text) (state : HopState) (hnetwork : OfNetwork exchange.network) :
    OfNetwork (exchange.absorb host state).network :=
  h.foldl_note _ _ _ hnetwork

theorem giveUp {reader : Reader} (hnetwork : OfNetwork exchange.network)
    (hreader : OfTransport reader.transport) : OfNetwork (exchange.giveUp reader).network :=
  h.retire _ _ hnetwork (h.closeReader reader hreader)

theorem onward {visit : Visit} {head : ResponseHead} {next : Url} {state : HopState}
    (hnetwork : OfNetwork exchange.network)
    (hstate : state.Holds OfTransport OfPayload) :
    OfNetwork (exchange.onward visit head next state).network ∧
      OfPayload (exchange.onward visit head next state).payload := by
  have hgivenUp := h.giveUp (h.absorb visit.host state hnetwork) hstate.1
  constructor
  · unfold Exchange.onward
    apply h.note
    unfold continueAfter
    split
    · exact hgivenUp
    · exact hgivenUp
  · rw [onward_payload]
    split
    · exact h.empty
    · exact hstate.2

variable (hrequest : hop.request = request) (hnetwork : OfNetwork exchange.network)
  (hpayload : OfPayload exchange.payload)
include hrequest hnetwork

theorem visit_error {after : Exchange} {failure : Failure}
    (hvisit : exchange.visit hop = .error failure after) :
    OfNetwork after.network ∧ allowed failure := by
  unfold visit at hvisit
  split at hvisit
  next failure' hhostname =>
    cases hvisit
    exact ⟨hnetwork, h.own _ (Url.isOwn_of_hostname hhostname)⟩
  next hostname hhostname =>
    dsimp only at hvisit
    split at hvisit
    next failure' network hconnect =>
      cases hvisit
      rw [hrequest] at hconnect
      exact h.connect_error _ _ _ _ (h.foldl_note _ _ _ hnetwork) hconnect
    next => cases hvisit

include hpayload

theorem visit_ok {visit : Visit} {after : Exchange}
    (hvisit : exchange.visit hop = .ok visit after) :
    OfNetwork after.network ∧ visit.begun.Holds OfTransport OfPayload := by
  unfold Exchange.visit at hvisit
  split at hvisit
  next => cases hvisit
  next hostname hhostname =>
    dsimp only at hvisit
    split at hvisit
    next => cases hvisit
    next transport network hconnect =>
      cases hvisit
      rw [hrequest] at hconnect
      obtain ⟨hafter, htransport⟩ :=
        h.connect_ok _ _ _ _ (h.foldl_note _ _ _ hnetwork) hconnect
      exact ⟨hafter, htransport, hpayload⟩

/-- What holds of a network, its connections and the payload holds when the chain ends, of the
connection that a response owns as well, and only an allowed failure ends it otherwise. -/
theorem run :
    match run hop exchange with
    | .ok response after => OfNetwork after.network ∧ OfTransport response.reader.transport
    | .error failure after => OfNetwork after.network ∧ allowed failure := by
  fun_induction visits hop exchange with
  | case1 hop exchange failure exchange' hvisit =>
      rw [run_eq, hvisit]
      exact h.visit_error hrequest hnetwork hvisit
  | case2 hop exchange visit exchange' hvisit failure state hresult =>
      obtain ⟨hopened, hbegun⟩ := h.visit_ok hrequest hnetwork hpayload hvisit
      obtain ⟨hstate, hfailure⟩ :=
        (h.perform visit.hop visit.host visit.cookies).error hbegun hresult
      rw [run_eq, hvisit]
      simp only [hresult]
      exact ⟨h.giveUp (h.absorb _ _ hopened) hstate.1, hfailure⟩
  | case3 hop exchange visit exchange' hvisit head state hresult =>
      obtain ⟨hopened, hbegun⟩ := h.visit_ok hrequest hnetwork hpayload hvisit
      have hstate := (h.perform visit.hop visit.host visit.cookies).ok hbegun hresult
      rw [run_eq, hvisit]
      simp only [hresult]
      exact ⟨h.absorb _ _ hopened, hstate.1⟩
  | case4 hop exchange visit exchange' hvisit head next state hresult ih =>
      obtain ⟨hopened, hbegun⟩ := h.visit_ok hrequest hnetwork hpayload hvisit
      have hstate := (h.perform visit.hop visit.host visit.cookies).ok hbegun hresult
      have hfollowing : (visit.hop.following head next).request = request := by
        rw [Hop.following, (Exchange.visit_ok hvisit).hop_eq]
        exact hrequest
      -- The next hop has a connection of its own, so nothing of this one goes on to it.
      obtain ⟨honward, hrest⟩ := h.onward hopened hstate
      rw [run_eq, hvisit]
      simp only [hresult]
      exact ih hfollowing honward hrest

end Invariant

end Exchange

end HttpFetch
