import HttpFetch.CommandLine.Program
import HttpFetch.Proofs.Exchange.Budget
import HttpFetch.Proofs.Exchange.Raising

/-!
# What the program reports

A run of the program issues one request and iterates over the body of its response.  It may fail
before there is a response, between two pieces of the body or at its end, and the report has to tell
these apart: in the code of the run, in what was written out before, in the reason of the failure.
`CommandLine.run_reports` says of every run whose network holds no interrupt that they agree, and
that the connection of the response is closed in any case.
-/

namespace HttpFetch

/-! ## The response of a call -/

/-- A response as a chain hands it over: its body has not been read and its socket is open. -/
structure Response.IsFresh (response : Response) : Prop where
  consumed_eq : response.consumed = false
  linked : response.IsLinked

theorem Exchange.isFresh_of_run {hop : Hop} {exchange after : Exchange} {response : Response}
    (h : run hop exchange = .ok response after) : response.IsFresh := by
  obtain ⟨followed, last, hcompletes⟩ := completes_of_ok h
  have hattached := hcompletes.attached
  have hopen : response.reader.transport.socket.isClosed = false := by
    rw [hcompletes.reads]
    exact hcompletes.kept_open
  obtain ⟨_, _, head, state, _, _, _, hresponse⟩ := run_ok h
  refine ⟨?_, iff_of_true hattached hopen⟩
  rw [hresponse]
  rfl

namespace Client

variable {client : Client} {call : Call} {clock : Clock} {network : Network}

/-- A call comes to what its chain comes to, if its destination is a URL. -/
theorem result_issue : (client.issue call clock network).result =
    match call.destination.resolve with
    | .error failure => .error failure
    | .ok url =>
      match Exchange.run (call.firstHop client.settings url clock)
          (.start network (some (call.ownJar.getD client.jar)) call.payload) with
      | .ok response _ => .ok response
      | .error failure _ => .error failure := by
  unfold issue Call.run
  cases call.destination.resolve with
  | error failure => rfl
  | ok url =>
      dsimp only
      cases Exchange.run (call.firstHop client.settings url clock)
          (.start network (some (call.ownJar.getD client.jar)) call.payload) with
      | ok response after => rfl
      | error failure after => rfl

theorem isFresh_of_issue {response : Response}
    (h : (client.issue call clock network).result = .ok response) : response.IsFresh := by
  rw [result_issue] at h
  split at h
  next => cases h
  next url hurl =>
    split at h
    next response' after hrun =>
      cases h
      exact Exchange.isFresh_of_run hrun
    next => cases h

/-- A call throws only faults of the kind that its network and its payload hold, and so does the
connection of its response. -/
theorem issue_raises {Kind : Fault → Prop} (hnetwork : ∀ cause ∈ network.faults, Kind cause)
    (hpayload : ∀ cause ∈ call.payload.faults, Kind cause) :
    match (client.issue call clock network).result with
    | .ok response => ∀ cause ∈ response.reader.transport.socket.script.faults, Kind cause
    | .error failure => failure.Raises Kind := by
  rw [result_issue]
  cases hurl : call.destination.resolve with
  | error failure =>
      have hown : failure.isOwn = true := by
        unfold Destination.resolve at hurl
        split at hurl
        next => cases hurl
        next =>
          split at hurl <;> cases hurl
          rfl
      exact Failure.raises_of_isOwn hown
  | ok url =>
      have hrun := Exchange.run_raises (call.firstHop client.settings url clock)
        (.start network (some (call.ownJar.getD client.jar)) call.payload) hnetwork hpayload
      dsimp only
      split
      next response hresult =>
        split at hresult
        next response' after hran =>
          cases hresult
          rw [hran] at hrun
          exact hrun
        next => cases hresult
      next failure hresult =>
        split at hresult
        next => cases hresult
        next failure' after hran =>
          cases hresult
          rw [hran] at hrun
          exact hrun

end Client

namespace Response

variable {response after : Response} {pieces : List Bytes} {failure? : Option Failure}

/-- An iteration over a fresh response that has come to its end has closed it. -/
theorem IsFresh.isClosed (h : response.IsFresh)
    (hiterates : Iterates (.start readChunkSize) response pieces failure? after) :
    after.attached = false ∧ after.reader.transport.socket.isClosed = true := by
  have hdrain : response.drain = ⟨pieces, failure?, after⟩ := iterates_iff.mp hiterates
  obtain ⟨hlater, hdetached⟩ := left_read_of_fresh h.consumed_eq
  rw [left_read, hdrain] at hlater hdetached
  -- The stream has been given up, and being linked makes that the same as being closed.
  have hlinked : after.IsLinked := hlater.linked h.linked
  refine ⟨hdetached, ?_⟩
  cases hclosed : after.reader.transport.socket.isClosed with
  | true => rfl
  | false => exact absurd ((hlinked.mpr hclosed).symm.trans hdetached) Bool.true_eq_false_eq_False

/-- An iteration fails with no fault of another kind than those that the connection holds. -/
theorem Iterates.raises {cursor : Cursor} {Kind : Fault → Prop}
    (h : Iterates cursor response pieces failure? after)
    (hresponse : ∀ cause ∈ response.reader.transport.socket.script.faults, Kind cause) :
    ∀ failure, failure? = some failure → failure.Raises Kind := by
  have hinvariant := Reader.Invariant.of_transport (@Transport.read_raises Kind readChunkSize)
    fun _ => Failure.raises_of_isOwn
  have hdrain := (hinvariant.drainFrom (fun _ hreader => hreader) cursor hresponse).2
  rw [iterates_iff.mp h] at hdrain
  exact hdrain

/-- The socket of a response after an iteration is the one before it, with more calls. -/
theorem Iterates.history_prefix {cursor : Cursor}
    (h : Iterates cursor response pieces failure? after) :
    response.reader.transport.socket.history <+: after.reader.transport.socket.history := by
  have hread : Step.Keeps (fun transport : Transport =>
      response.reader.transport.socket.history <+: transport.socket.history) (fun _ => True)
      (Transport.read readChunkSize) := by
    apply Step.Keeps.of_left
    intro transport htransport
    obtain ⟨got, hhistory, -⟩ := transport.read_history readChunkSize
    rw [hhistory]
    exact htransport.trans (List.prefix_append _ _)
  have hinvariant := Reader.Invariant.of_transport hread fun _ _ => trivial
  have hclose : ∀ reader : Reader,
      response.reader.transport.socket.history <+: reader.transport.socket.history →
        response.reader.transport.socket.history <+: reader.close.transport.socket.history :=
    fun _ hreader => hreader.trans (List.prefix_append _ _)
  have hdrain := (hinvariant.drainFrom hclose cursor (List.prefix_refl _)).1
  rw [iterates_iff.mp h] at hdrain
  exact hdrain

end Response

/-! ## The program -/

/-- A failure that is no fault, or one that is an error, is an error. -/
theorem Failure.Raises.isError {failure : Failure}
    (h : failure.Raises fun cause => cause.family.isError = true) : failure.isError = true := by
  cases failure with
  | fault cause => exact h cause rfl
  | _ => rfl

namespace CommandLine

namespace Arguments

variable {arguments : Arguments}

theorem faults_call (headers : Headers) : (arguments.call headers).payload.faults = [] := by
  unfold call
  cases arguments.data <;> rfl

theorem isError_explain {failure : Failure} (h : failure.isError = true) :
    (arguments.explain failure).isError = true := by
  unfold explain
  split
  · rfl
  · exact h

end Arguments

/-- What the call that arguments ask for comes to. -/
def answer (arguments : Arguments) (headers : Headers) (environment : Environment) (clock : Clock)
    (network : Network) : Answer :=
  (Client.ofSettings (arguments.settings environment)).issue (arguments.call headers) clock network

/-- The request that arguments ask for: its response or its failure, and the network after it. -/
def requested (arguments : Arguments) (headers : Headers) (environment : Environment)
    (clock : Clock) (network : Network) : Except Failure Response × Network :=
  match arguments.data with
  | .blank => (.error .blankPayload, network)
  | _ =>
    let answer := answer arguments headers environment clock network
    (answer.result.mapError arguments.explain, answer.network)

section Requested

variable {arguments : Arguments} {headers : Headers} {environment : Environment} {clock : Clock}
  {network : Network} {response : Response} {failure : Failure}

/-- What is written out is decided by what the request comes to. -/
theorem transfer_eq : transfer arguments headers environment clock network =
    match requested arguments headers environment clock network with
    | (.ok response, after) => .ofResponse after arguments.showHead response
    | (.error failure, after) => ⟨Transfer.endingOf (some failure), [], after⟩ := by
  unfold transfer requested
  cases arguments.data with
  | blank => rfl
  | unsaid | value =>
      dsimp only [Transfer.ofAnswer, answer]
      split
      next hresult =>
        rw [hresult]
      next hresult =>
        rw [hresult]

theorem result_of_requested_ok
    (h : (requested arguments headers environment clock network).1 = .ok response) :
    (answer arguments headers environment clock network).result = .ok response := by
  have hresult {result : Except Failure Response}
      (hmap : result.mapError arguments.explain = .ok response) : result = .ok response := by
    cases result <;> cases hmap
    rfl
  unfold requested at h
  split at h
  next => cases h
  next => exact hresult h

theorem result_of_requested_error
    (h : (requested arguments headers environment clock network).1 = .error failure) :
    failure = .blankPayload ∨ ∃ cause,
      (answer arguments headers environment clock network).result = .error cause ∧
        failure = arguments.explain cause := by
  have hresult {result : Except Failure Response}
      (hmap : result.mapError arguments.explain = .error failure) :
      ∃ cause, result = .error cause ∧ failure = arguments.explain cause := by
    cases result with
    | ok response => cases hmap
    | error cause =>
        cases hmap
        exact ⟨cause, rfl, rfl⟩
  unfold requested at h
  split at h
  next =>
    cases h
    exact .inl rfl
  next => exact .inr (hresult h)

theorem isFresh_of_requested
    (h : (requested arguments headers environment clock network).1 = .ok response) :
    response.IsFresh :=
  Client.isFresh_of_issue (result_of_requested_ok h)

variable (herrors : ∀ cause ∈ network.faults, cause.family.isError = true)
include herrors

variable (arguments headers environment clock) in
theorem answer_raises : match (answer arguments headers environment clock network).result with
    | .ok response =>
      ∀ cause ∈ response.reader.transport.socket.script.faults, cause.family.isError = true
    | .error failure => failure.Raises fun cause => cause.family.isError = true := by
  have hpayload : ∀ cause ∈ (arguments.call headers).payload.faults,
      cause.family.isError = true := by
    rw [arguments.faults_call]
    exact nofun
  exact Client.issue_raises herrors hpayload

theorem isError_of_requested
    (h : (requested arguments headers environment clock network).1 = .error failure) :
    failure.isError = true := by
  obtain rfl | ⟨cause, hresult, rfl⟩ := result_of_requested_error h
  · rfl
  · have hraises := answer_raises arguments headers environment clock herrors
    rw [hresult] at hraises
    exact Arguments.isError_explain hraises.isError

theorem isError_of_iterates {cursor : Cursor} {pieces : List Bytes}
    {failure? : Option Failure} {after : Response}
    (h : (requested arguments headers environment clock network).1 = .ok response)
    (hiterates : response.Iterates cursor pieces failure? after) :
    ∀ failure, failure? = some failure → failure.isError = true := by
  have hraises := answer_raises arguments headers environment clock herrors
  rw [result_of_requested_ok h] at hraises
  exact fun failure hfailure => (hiterates.raises hraises failure hfailure).isError

end Requested

/-- The head of a response as it is written out: the line of the status without blanks at its end,
a line for each header field, and an empty line. -/
theorem headText_eq (head : ResponseHead) : headText head = Utf8.encode
    (Text.trimRight Text.isBlank
        (head.version ++ ' ' :: Text.ofInt head.status ++ ' ' :: head.reason) ++ ['\n'] ++
      head.headers.flatMap (fun field => field.name ++ ": ".toList ++ field.value ++ ['\n']) ++
      ['\n']) := by
  simp [headText, headLines, Field.line, List.flatMap_map]

/-- What a run reports of a response that gave some pieces of its body before the end, or before a
failure: with the head, if it is asked for, it has written out these pieces, its code tells whether
there was a failure, its last words are the reason and the text of that, and it has closed the
connection. -/
structure Report.Tells (report : Report) (showHead : Bool) (request : Network) (notes : Text)
    (response : Response) (pieces : List Bytes) (failure? : Option Failure) : Prop where
  code_eq : report.ending.code = if failure?.isSome then 1 else 0
  output_eq : report.output =
    (if showHead then Utf8.encode
      (Text.trimRight Text.isBlank (response.head.version ++ ' ' ::
          Text.ofInt response.head.status ++ ' ' :: response.head.reason) ++ ['\n'] ++
        response.head.headers.flatMap
          (fun field => field.name ++ ": ".toList ++ field.value ++ ['\n']) ++
        ['\n'])
    else []) ++ pieces.flatten
  errors_eq : report.errors = notes ++ (failure?.map fun failure =>
    "error: ".toList ++ failure.category.reason.toList ++ ": ".toList ++ failure.message ++
      ['\n']).getD []
  closed : ∃ socket, report.network.sockets = request.sockets ++ [socket] ∧
    response.reader.transport.socket.history <+: socket.history ∧ socket.isClosed = true

namespace Report.Tells

variable {report : Report} {showHead : Bool} {request : Network} {notes : Text}
  {response : Response} {pieces : List Bytes} {failure? : Option Failure}
  (h : report.Tells showHead request notes response pieces failure?)
include h

theorem code_eq_zero_iff : report.ending.code = 0 ↔ failure? = none := by
  rw [h.code_eq]
  cases failure? <;> simp

theorem code_eq_zero_or_one : report.ending.code = 0 ∨ report.ending.code = 1 := by
  rw [h.code_eq]
  cases failure? with
  | none => exact .inl rfl
  | some failure => exact .inr rfl

end Report.Tells

namespace Transfer

variable {network : Network} {response after : Response} {pieces : List Bytes}
  {failure? : Option Failure}

theorem code_endingOf (h : ∀ failure, failure? = some failure → failure.isError = true) :
    (endingOf failure?).code = if failure?.isSome then 1 else 0 := by
  cases failure? with
  | none => rfl
  | some failure => simp [endingOf, h failure rfl, Ending.code]

theorem lastWords_endingOf (h : ∀ failure, failure? = some failure → failure.isError = true) :
    lastWords (endingOf failure?) = (failure?.map failureLine).getD [] := by
  cases failure? with
  | none => rfl
  | some failure => simp [endingOf, h failure rfl, lastWords]

theorem ofResponse_tells (hfresh : response.IsFresh)
    (hiterates : response.Iterates (.start readChunkSize) pieces failure? after)
    (herror : ∀ failure, failure? = some failure → failure.isError = true) (showHead : Bool)
    (loggers : Loggers) :
    ((ofResponse network showHead response).report loggers).Tells showHead network
      (loggers.render network.notes) response pieces failure? := by
  have hdrain : response.drain = ⟨pieces, failure?, after⟩ := Response.iterates_iff.mp hiterates
  obtain ⟨hdetached, hclosed⟩ := hfresh.isClosed hiterates
  have hclose : after.close = after := by
    unfold Response.close
    rw [hdetached]
    rfl
  have htransfer : ofResponse network showHead response =
      ⟨endingOf failure?, (if showHead then headText response.head else []) ++ pieces.flatten,
        network.retire after.reader.transport.socket⟩ := by
    unfold ofResponse
    dsimp only
    rw [hdrain, hclose]
  rw [htransfer, headText_eq]
  exact ⟨code_endingOf herror, rfl, congrArg _ (lastWords_endingOf herror),
    after.reader.transport.socket, rfl, hiterates.history_prefix, hclosed⟩

end Transfer

theorem run_eq {words : List Text} {arguments : Arguments} {headers : Headers}
    {environment : Environment} {clock : Clock} {network : Network}
    (hparse : Arguments.parse words = .ok arguments) (hfields : arguments.fields = .ok headers) :
    run words environment clock network =
      (transfer arguments headers environment clock network).report
        (Loggers.setup environment arguments.logLevel.value?) := by
  unfold run
  rw [hparse]
  dsimp only [perform]
  rw [hfields]

end CommandLine

end HttpFetch
