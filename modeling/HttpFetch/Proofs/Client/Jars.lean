import HttpFetch.Client
import HttpFetch.Proofs.Exchange.Stages

/-!
# The jars of a client

A client is used again and again, with its own jar or with one that the caller keeps.  A session is
the client with the jars of the caller by their keys, and `Session.run_updates` says what a number
of calls makes of each jar, whether they succeed or fail: what the stages of the calls that used it
make of it, in the order of time, and nothing else.  Each stage goes by what the clock shows on its
own hop, so a cookie may expire between two hops of a call as it may between two calls.
-/

namespace HttpFetch

/-- A call with the jar that it uses, what the clock shows meanwhile, and the network that it
meets. -/
structure Errand (κ : Type) where
  call : Call
  key : Option κ
  clock : Clock
  network : Network

/-- A client and the jars that its callers keep. -/
structure Session (κ : Type) where
  client : Client
  jars : κ → Jar

namespace Session

variable {κ : Type}

/-- The jar of a key, or that of the client. -/
def jar (session : Session κ) : Option κ → Jar
  | none => session.client.jar
  | some key => session.jars key

/-- The call of an errand, which brings the jar of a key or none. -/
def callOf (session : Session κ) (errand : Errand κ) : Call :=
  { errand.call with ownJar := errand.key.map session.jars }

/-- The stages that an errand goes through, none if its destination is not a URL. -/
def stagesOf (session : Session κ) (errand : Errand κ) : List Stage :=
  match errand.call.destination.resolve with
  | .error _ => []
  | .ok url =>
    Exchange.stages
      ((session.callOf errand).firstHop session.client.settings url errand.clock)
      (.start errand.network (some (session.jar errand.key)) errand.call.payload)

section Runs

variable [DecidableEq κ]

def step (session : Session κ) (errand : Errand κ) : Session κ :=
  let answer := session.client.issue (session.callOf errand) errand.clock errand.network
  { client := answer.client
    jars := match errand.key with
      | none => session.jars
      | some key => Function.update session.jars key (answer.ownJar.getD (session.jars key)) }

def run (session : Session κ) (errands : List (Errand κ)) : Session κ := errands.foldl step session

/-- The stages that use a jar, in the order of time. -/
def stages (key : Option κ) : Session κ → List (Errand κ) → List Stage
  | _, [] => []
  | session, errand :: errands =>
    (if errand.key = key then session.stagesOf errand else []) ++
      stages key (session.step errand) errands

end Runs

end Session

/-- What a call leaves of the jars is what its exchange leaves of the jar that it uses. -/
theorem Client.issue_jars (client : Client) (call : Call) (clock : Clock) (network : Network) :
    let left := Step.left (call.run client.settings clock
      (.start network (some (call.ownJar.getD client.jar)) call.payload))
    (client.issue call clock network).client =
        (if call.ownJar.isSome then client else { client with jar := left.jar.getD client.jar }) ∧
      (client.issue call clock network).ownJar = call.ownJar.bind fun _ => left.jar := by
  intro left
  unfold issue
  cases hrun : call.run client.settings clock
      (.start network (some (call.ownJar.getD client.jar)) call.payload) with
  | ok response exchange =>
      simp only [left, hrun, conclude, Step.left_ok, and_self]
  | error failure exchange =>
      simp only [left, hrun, conclude, Step.left_error, and_self]

namespace Session

variable {κ : Type} (session : Session κ)

theorem exchange_jar (errand : Errand κ)
    (hstores : ∀ stage ∈ session.stagesOf errand, stage.Stores) :
    (Step.left ((session.callOf errand).run session.client.settings errand.clock
        (.start errand.network (some (session.jar errand.key)) errand.call.payload))).jar =
      some ((session.stagesOf errand).foldl (fun jar stage => stage.update jar)
        (session.jar errand.key)) := by
  have hdestination : (session.callOf errand).destination = errand.call.destination := rfl
  unfold stagesOf at hstores ⊢
  unfold Call.run
  rw [hdestination]
  cases hurl : errand.call.destination.resolve with
  | error failure => rfl
  | ok url =>
      rw [hurl] at hstores
      exact Exchange.run_jar _ _ hstores

variable [DecidableEq κ]

theorem step_jar_of_ne {errand : Errand κ} {key : Option κ} (h : errand.key ≠ key) :
    (session.step errand).jar key = session.jar key := by
  obtain ⟨hclient, -⟩ := session.client.issue_jars (session.callOf errand) errand.clock
    errand.network
  have hkey : (session.callOf errand).ownJar = errand.key.map session.jars := rfl
  rw [hkey] at hclient
  unfold step jar
  cases hused : errand.key with
  | none =>
      cases key with
      | none => exact absurd hused h
      | some other => rfl
  | some used =>
      rw [hused] at hclient h
      cases key with
      | none => exact congrArg Client.jar hclient
      | some other =>
          have hne : other ≠ used := fun heq => h (congrArg some heq.symm)
          exact Function.update_of_ne hne _ session.jars

theorem step_jar_self (errand : Errand κ)
    (hstores : ∀ stage ∈ session.stagesOf errand, stage.Stores) :
    (session.step errand).jar errand.key =
      (session.stagesOf errand).foldl (fun jar stage => stage.update jar)
        (session.jar errand.key) := by
  have hexchange := session.exchange_jar errand hstores
  obtain ⟨hclient, hown⟩ := session.client.issue_jars (session.callOf errand) errand.clock
    errand.network
  have hjar : (session.callOf errand).ownJar.getD session.client.jar = session.jar errand.key := by
    unfold callOf jar
    cases errand.key <;> rfl
  have hpayload : (session.callOf errand).payload = errand.call.payload := rfl
  have hkey : (session.callOf errand).ownJar = errand.key.map session.jars := rfl
  rw [hjar, hpayload, hexchange, hkey] at hclient hown
  generalize (session.stagesOf errand).foldl (fun jar stage => stage.update jar)
    (session.jar errand.key) = final at hclient hown ⊢
  unfold step jar
  cases hused : errand.key with
  | none =>
      rw [hused] at hclient
      exact congrArg Client.jar hclient
  | some used =>
      rw [hused] at hown
      simp only [hown, Function.update_self]
      rfl

/-- What a session makes of a jar is what the stages that used it make of it, one after the other,
if all their cookies can be stored.  A jar that no stage used stays as it was. -/
theorem run_updates (errands : List (Errand κ)) (key : Option κ)
    (hstores : ∀ stage ∈ stages key session errands, stage.Stores) :
    (session.run errands).jar key =
      (stages key session errands).foldl (fun jar stage => stage.update jar) (session.jar key) ∧
    ((∀ stage ∈ stages key session errands, stage.host? = none) →
      (session.run errands).jar key = session.jar key) := by
  have hfold : (session.run errands).jar key =
      (stages key session errands).foldl (fun jar stage => stage.update jar) (session.jar key) := by
    -- Each errand is run in the session that the errands before it leave.
    induction errands generalizing session with
    | nil => rfl
    | cons errand errands ih =>
        rw [stages, List.forall_mem_append] at hstores
        rw [run, List.foldl_cons, stages, List.foldl_append]
        refine (ih (session.step errand) hstores.2).trans ?_
        congr 1
        split
        next hused =>
          subst hused
          exact session.step_jar_self errand (by simpa using hstores.1)
        next hused => exact session.step_jar_of_ne hused
  refine ⟨hfold, fun hnone => ?_⟩
  rw [hfold]
  generalize session.jar key = jar
  generalize stages key session errands = list at hnone
  induction list with
  | nil => rfl
  | cons stage list ih =>
      rw [List.forall_mem_cons] at hnone
      rw [List.foldl_cons, Stage.update_of_host_none hnone.1, ih hnone.2]

/-- A request whose hops begin ten seconds after each other.  On a hop a second goes by between two
values that set cookies. -/
def errandTo (key : Option Unit) (budget : Int) (answers : List String) : Errand Unit where
  call := ⟨"GET".toList, .written "http://h/".toList, .pairs [], .empty, none, some budget⟩
  key := key
  clock := fun hop => ⟨10 * hop, fun i => 10 * hop + i⟩
  network := .ofScripts
    (answers.map fun answer => ⟨[.data (Utf8.encode answer.toList)], none, none, none⟩) []

/-- A cookie of the first hop expires before the second one, which is a redirect too many and sets
two of its own all the same; a response sets its cookie in the jar that the caller keeps. -/
theorem run_updates_refused :
    let session : Session Unit := ⟨.ofSettings .default, fun _ => Jar.empty⟩
    let errands : List (Errand Unit) :=
      [errandTo none 1
        ["HTTP/1.1 302 Found\r\nSet-Cookie: a=1; Max-Age=5\r\nLocation: /\r\n\r\n",
          "HTTP/1.1 302 Found\r\nSet-Cookie: b=2; Max-Age=5\r\nSet-Cookie: c=3; Max-Age=5\r\n" ++
            "Location: /\r\n\r\n"],
        errandTo (some ()) 0 ["HTTP/1.1 200 OK\r\nSet-Cookie: d=4\r\n\r\n"]]
    ((session.run errands).jar none).toList.map (fun cookie => (cookie.name, cookie.expires)) =
        [("b".toList, some 15), ("c".toList, some 16)] ∧
      ((session.run errands).jar (some ())).toList.map Cookie.name = ["d".toList] := by
  intro session errands
  have hown := (session.run_updates errands none (by decide +kernel)).1
  have hkept := (session.run_updates errands (some ()) (by decide +kernel)).1
  rw [hown, hkept]
  decide +kernel

end Session

end HttpFetch
