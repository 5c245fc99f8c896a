import HttpFetch.Proofs.Exchange.Alike
import HttpFetch.Proofs.Exchange.Budget
import HttpFetch.Proofs.Url.Joining

/-!
# Where a redirect departs to

A location is joined first, and what is joined is looked at only later: its host is encoded, its
scheme picks the kind of connection, and TLS needs the name of a server.  From an ASCII host a
redirect comes to a lookup or fails before, and all but one of these failures say what is wrong with
the location.  The other one is about a scope that is not in ASCII, which no step refuses until the
host is encoded (`redirect_departs`, `redirect_scope_unencodable`).
-/

namespace HttpFetch.Exchange

/-- How a chain goes on at a URL: its host is looked up, or the chain fails and has done nothing on
the network. -/
inductive Departs (url : Url) (exchange : Exchange) :
    EStateM.Result Failure Exchange Response → Prop
  | unencodable {after : Exchange} (hhost : Url.isAscii url.host = false)
      (hnetwork : exchange.network.Alike after.network) :
      Departs url exchange (.error (.unencodable .ascii url.host) after)
  | unknownScheme {after : Exchange} (hhost : Url.isAscii url.host = true)
      (hscheme : url.scheme.lower ≠ "http".toList ∧ url.scheme.lower ≠ "https".toList)
      (hnetwork : exchange.network.Alike after.network) :
      Departs url exchange (.error (.unknownScheme url.scheme) after)
  | serverName {after : Exchange} (hhost : Url.isAscii url.host = true)
      (hscheme : url.scheme.lower = "https".toList) (hname : Host.isServerName url.host = false)
      (hnetwork : exchange.network.Alike after.network) :
      Departs url exchange (.error (.serverName url.host) after)
  | looksUp {result : EStateM.Result Failure Exchange Response} {port : Int}
      (hhost : Url.isAscii url.host = true)
      (hscheme : url.scheme.lower = "http".toList ∨
        (url.scheme.lower = "https".toList ∧ Host.isServerName url.host = true))
      (hlookups : exchange.network.lookups ++ [(url.host, port)] <+: (settled result).lookups) :
      Departs url exchange result

variable {hop : Hop} {exchange : Exchange}

theorem run_of_visit_error {failure : Failure} {after : Exchange}
    (h : exchange.visit hop = .error failure after) : run hop exchange = .error failure after := by
  rw [run_eq, h]

theorem run_unencodable (h : Url.isAscii hop.url.host = false) :
    run hop exchange = .error (.unencodable .ascii hop.url.host) exchange := by
  apply run_of_visit_error
  simp [visit, Url.hostname, h]

/-- What is refused before a name is looked up leaves notes only. -/
theorem run_of_connect_error (exchange : Exchange) {failure : Failure}
    (hhost : Url.isAscii hop.url.host = true)
    (hconnect : ∀ network, Network.connect hop.request hop.url network = .error failure network) :
    ∃ after, run hop exchange = .error failure after ∧ exchange.network.Alike after.network := by
  have hvisit : ∃ after, exchange.visit hop = .error failure after ∧
      exchange.network.Alike after.network := by
    simp only [visit, Url.hostname, hhost, if_true, hconnect]
    exact ⟨_, rfl, .of_foldl_note ..⟩
  obtain ⟨after, hvisit, hnetwork⟩ := hvisit
  exact ⟨after, run_of_visit_error hvisit, hnetwork⟩

theorem run_departs (hop : Hop) (exchange : Exchange) :
    Departs hop.url exchange (run hop exchange) := by
  by_cases hhost : Url.isAscii hop.url.host = true
  swap
  · rw [Bool.not_eq_true] at hhost
    rw [run_unencodable hhost]
    exact .unencodable hhost (.refl _)
  have hhostname : hop.url.hostname = .ok hop.url.host := if_pos hhost
  have hrun := run_lookups hop exchange
  rw [visit_lookups] at hrun
  by_cases hhttps : hop.url.scheme.lower = "https".toList
  · by_cases hname : Host.isServerName hop.url.host = true
    · have hasks : Network.lookupsOf hop.url =
          [(hop.url.host, Network.portOf hop.url "https")] := by
        simp [Network.lookupsOf, hhttps, hhostname, Url.isSecure, hname]
      rw [hasks] at hrun
      exact .looksUp hhost (Or.inr ⟨hhttps, hname⟩) hrun
    · rw [Bool.not_eq_true] at hname
      have hconnect : ∀ network, Network.connect hop.request hop.url network =
          .error (.serverName hop.url.host) network := by
        simp [Network.connect, Network.connectTls, hhttps, hhostname, Url.isSecure, hname]
      obtain ⟨after, hresult, hnetwork⟩ := run_of_connect_error exchange hhost hconnect
      rw [hresult]
      exact .serverName hhost hhttps hname hnetwork
  · by_cases hhttp : hop.url.scheme.lower = "http".toList
    · have hasks : Network.lookupsOf hop.url =
          [(hop.url.host, Network.portOf hop.url "http")] := by
        simp [Network.lookupsOf, hhttp, hhostname, Url.isSecure]
      rw [hasks] at hrun
      exact .looksUp hhost (Or.inl hhttp) hrun
    · have hconnect : ∀ network, Network.connect hop.request hop.url network =
          .error (.unknownScheme hop.url.scheme) network :=
        fun network => if_neg (not_or.mpr ⟨hhttp, hhttps⟩)
      obtain ⟨after, hresult, hnetwork⟩ := run_of_connect_error exchange hhost hconnect
      rw [hresult]
      exact .unknownScheme hhost ⟨hhttp, hhttps⟩ hnetwork

/-- From an ASCII host, a redirect within the budget is refused as a location, or comes to a URL and
departs from there.  The host of that URL can only lack a code if the location has a character
outside ASCII in the scope of an address. -/
theorem redirect_departs {written : Text} (hparse : Url.parse written = .ok hop.url)
    (hhost : Url.isAscii hop.url.host = true) (hbudget : 0 < hop.budget) {head : ResponseHead}
    (hredirect : head.isRedirect = true) (exchange : Exchange) :
    ∃ location, head.headers.value? "location".toList = some location ∧
      ((hop.target head = .error (.redirection location) ∧
          ∀ state, hop.afterHead head state = .error (.redirection location) state) ∨
        ∃ next, hop.target head = .ok next ∧
          (∀ state ending state', hop.afterHead head state = .ok ending state' →
            ending = .follow head next) ∧
          Departs next exchange (run (hop.following head next) exchange) ∧
          (Url.isAscii next.host = false →
            Host.isIpv6 next.host = true ∧ ∃ c ∈ next.host, c ∈ location ∧ 128 ≤ c.toNat)) := by
  obtain ⟨location, hlocation⟩ := ResponseHead.exists_location hredirect
  refine ⟨location, hlocation, ?_⟩
  have htarget : hop.target head = hop.url.redirect location := by
    rw [Hop.target, if_neg (by omega), hlocation, Option.getD_some]
  cases hjoin : hop.url.redirect location with
  | error failure =>
      have hfailure : failure = .redirection location := by
        unfold Url.redirect at hjoin
        split at hjoin
        · cases hjoin
        · cases hjoin
          rfl
      rw [hjoin, hfailure] at htarget
      refine Or.inl ⟨htarget, fun state => ?_⟩
      rw [Hop.afterHead, if_pos hredirect, htarget]
      rfl
  | ok next =>
      have hdeparts := run_departs (hop.following head next) exchange
      refine Or.inr ⟨next, htarget.trans hjoin, ?_, hdeparts, ?_⟩
      · intro state ending state' hended
        rw [Hop.afterHead, if_pos hredirect, htarget, hjoin] at hended
        by_cases hget : Hop.becomesGet head = true
        · simp only [hget, if_true, bind, EStateM.bind] at hended
          cases hpaid : hop.sendPayload state with
          | error failure after => simp [hpaid] at hended
          | ok _ after =>
              rw [hpaid] at hended
              cases hended
              rfl
        · simp only [hget] at hended
          cases hended
          rfl
      · intro hnext
        apply (Url.redirect_host hparse hhost hjoin).resolve_left
        simp [hnext]

/-- A redirect to an address over TLS is refused before anything is looked up. -/
theorem redirect_departs_address :
    let hop := Hop.root "h".toList
    let head : ResponseHead :=
      ⟨302, [], "HTTP/1.1".toList, [⟨"Location".toList, "https://1.2.3.4/".toList⟩]⟩
    let next : Url := ⟨"https".toList, [], "1.2.3.4".toList, none, "/".toList, none, none⟩
    let exchange := start (.ofScripts [] []) none .empty
    Url.parse "http://h/".toList = .ok hop.url ∧ Url.isAscii hop.url.host = true ∧
      0 < hop.budget ∧ head.isRedirect = true ∧ hop.target head = .ok next ∧
      ∃ after, run (hop.following head next) exchange = .error (.serverName next.host) after ∧
        exchange.network.Alike after.network := by
  intro hop head next exchange
  have hparse : Url.parse "http://h/".toList = .ok hop.url := by decide +kernel
  have hredirect : head.isRedirect = true := by decide +kernel
  have htarget : hop.target head = .ok next := by decide +kernel
  have hname : Host.isServerName next.host = false := by decide +kernel
  refine ⟨hparse, rfl, by decide, hredirect, htarget, ?_⟩
  obtain ⟨location, -, ⟨hrefused, -⟩ | ⟨url, hurl, -, hdeparts, -⟩⟩ :=
    redirect_departs hparse rfl (by decide) hredirect exchange
  · rw [htarget] at hrefused
    cases hrefused
  · cases htarget.symm.trans hurl
    generalize run (hop.following head next) exchange = result at hdeparts ⊢
    cases hdeparts with
    | unencodable hhost => cases hhost
    | unknownScheme hhost hscheme => exact absurd rfl hscheme.2
    | serverName hhost hscheme hname hnetwork => exact ⟨_, rfl, hnetwork⟩
    | looksUp hhost hscheme =>
        rcases hscheme with hhttp | ⟨-, hserver⟩
        · exact absurd hhttp (by decide)
        · rw [hname] at hserver
          cases hserver

/-- A location with a scope outside ASCII is not refused.  The chain fails when it comes to the host
that it leads to, and its failure is not one of those that are told apart. -/
theorem redirect_scope_unencodable :
    let octets := Utf8.encode "HTTP/1.1 302 Found\r\nLocation: http://[fe80::1%".toList ++ [0xe9] ++
      Utf8.encode "]/\r\n\r\n".toList
    let exchange := start (.ofScripts [⟨[.data octets], none, none, none⟩] []) none .empty
    let failure := Failure.unencodable .ascii "fe80::1%é".toList
    ∃ after, run (Hop.root "h".toList) exchange = .error failure after ∧
      after.network.lookups = [("h".toList, 80)] ∧ failure.category = .unknownError := by
  intro octets exchange failure
  have hfails : Step.failure? (run (Hop.root "h".toList) exchange) = some failure := by
    decide +kernel
  have hlookups : (settled (run (Hop.root "h".toList) exchange)).lookups = [("h".toList, 80)] := by
    decide +kernel
  have hrun := Step.eq_error_of_failure? hfails
  rw [hrun] at hlookups
  exact ⟨_, hrun, hlookups, rfl⟩

end HttpFetch.Exchange
