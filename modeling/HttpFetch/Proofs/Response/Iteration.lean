import HttpFetch.Proofs.Response.BodyDecoding
import HttpFetch.Proofs.Stream.Transfer

/-!
# The iteration of a body

An iteration only reads from the connection until it stops or fails, and then the response is
closed: its stream is given up and its socket closed.  `Response.Runs` says so of one piece and
`Response.left_read_of_fresh` of the whole body.  A body that has begun to be read is refused
to every further iteration, and nothing happens to the response.
-/

namespace HttpFetch

namespace Response

theorem finished_of_piece {cursor cursor' : Cursor} {reader reader' : Reader}
    (h : piece cursor reader = .ok (none, cursor') reader') : cursor' = .finished := by
  unfold piece at h
  split at h
  next =>
    split at h
    next =>
      cases h
      rfl
    next => split at h <;> cases h
  next =>
    split at h
    next => cases h
    next =>
      cases h
      rfl
    next => cases h
  next =>
    split at h
    next =>
      cases h
      rfl
    next => cases h
    next => cases h
  next =>
    cases h
    rfl
  next =>
    cases h
    rfl

variable {response : Response}

/-- Attached exactly while the socket is open. -/
def IsLinked (response : Response) : Prop :=
  response.attached = true ↔ response.reader.transport.socket.isClosed = false

theorem IsLinked.withReader (h : response.IsLinked) {reader : Reader}
    (hsilent : response.reader.transport.socket.Transfers [] reader.transport.socket) :
    (response.withReader reader).IsLinked := by
  change response.attached = true ↔ reader.transport.socket.isClosed = false
  rw [hsilent.isClosed_eq]
  exact h

theorem IsLinked.close (h : response.IsLinked) : response.close.IsLinked := by
  unfold Response.close
  split
  next =>
    have hclosed : response.reader.close.transport.socket.isClosed = true :=
      Socket.isClosed_close _
    simp [IsLinked, hclosed]
  next => exact h

@[simp] theorem attached_close (response : Response) : response.close.attached = false := by
  unfold close
  split
  next => rfl
  next hdetached => simpa using hdetached

@[simp] theorem consumed_close (response : Response) :
    response.close.consumed = response.consumed := by
  unfold close
  split <;> rfl

/-- One response later than another, when no iteration has begun in between. -/
structure Later (before after : Response) : Prop where
  linked : before.IsLinked → after.IsLinked
  consumed_eq : after.consumed = before.consumed
  attached : after.attached = true → before.attached = true

namespace Later

theorem refl (response : Response) : response.Later response := ⟨id, rfl, id⟩

theorem trans {before between after : Response} (hfirst : before.Later between)
    (hsecond : between.Later after) : before.Later after where
  linked := hsecond.linked ∘ hfirst.linked
  consumed_eq := hsecond.consumed_eq.trans hfirst.consumed_eq
  attached := hfirst.attached ∘ hsecond.attached

theorem withReader {reader : Reader}
    (hsilent : response.reader.transport.socket.Transfers [] reader.transport.socket) :
    response.Later (response.withReader reader) :=
  ⟨fun h => h.withReader hsilent, rfl, id⟩

theorem close (response : Response) : response.Later response.close :=
  ⟨fun h => h.close, consumed_close response, fun h => by simp at h⟩

end Later

/-- What the iteration of a body does at a time: it gives a piece of what it reads, or it stops or
fails, and then the response is closed. -/
inductive Runs (response : Response) :
    EStateM.Result Failure Response (Option Bytes × Cursor) → Prop
  | gives {octets : Bytes} {cursor : Cursor} {reader : Reader}
      (silent : response.reader.transport.socket.Transfers [] reader.transport.socket)
      (begun : cursor.isBegun = true) :
      Runs response (.ok (some octets, cursor) (response.withReader reader))
  | stops {reader : Reader}
      (silent : response.reader.transport.socket.Transfers [] reader.transport.socket) :
      Runs response (.ok (none, .finished) (response.withReader reader).close)
  | fails {failure : Failure} {reader : Reader}
      (silent : response.reader.transport.socket.Transfers [] reader.transport.socket) :
      Runs response (.error failure (response.withReader reader).close)

theorem resume_runs (cursor : Cursor) (response : Response) :
    Runs response (resume cursor response) := by
  unfold resume
  split
  next octets cursor' reader hpiece =>
    exact .gives ((Silent.piece cursor).ok hpiece) (piece_isBegun hpiece)
  next cursor' reader hpiece =>
    cases finished_of_piece hpiece
    exact .stops ((Silent.piece cursor).ok hpiece)
  next failure reader hpiece => exact .fails ((Silent.piece cursor).error hpiece)

/-- A response whose body has begun to be read. -/
def started (response : Response) : Response := { response with consumed := true }

theorem begin_runs (hfresh : response.consumed = false) (size : Int) :
    Runs response.started (begin size response) := by
  have hstay : response.started.reader.transport.socket.Transfers []
      response.reader.transport.socket := .refl _
  by_cases hattached : response.attached = true
  · cases hcursor : Framing.cursor size (Framing.ofHead response.head response.method) with
    | ok cursor =>
        have hbegin : begin size response = resume cursor response.started := by
          simp [begin, hfresh, hattached, hcursor, started]
        rw [hbegin]
        exact resume_runs cursor _
    | error failure =>
        have hbegin : begin size response = .error failure response.started.close := by
          simp [begin, hfresh, hattached, hcursor, started]
        rw [hbegin]
        exact .fails hstay
  · have hbegin : begin size response = .ok (none, .finished) response.started := by
      simp [begin, hfresh, hattached, started]
    -- Nothing is closed here, because there is no stream any more.
    have hclosed : (response.started.withReader response.reader).close = response.started :=
      if_neg hattached
    have hstops := Runs.stops hstay
    rwa [hclosed, ← hbegin] at hstops

theorem begin_of_consumed (hconsumed : response.consumed = true) (size : Int) :
    begin size response = .error .responseConsumed response := if_pos hconsumed

/-- An iteration without a further piece has stopped. -/
theorem finished_of_advance {cursor cursor' : Cursor} {response' : Response}
    (h : advance cursor response = .ok (none, cursor') response') : cursor' = .finished := by
  have hruns {start : Response} (hruns : start.Runs (advance cursor response)) :
      cursor' = .finished := by
    rw [h] at hruns
    cases hruns
    rfl
  cases cursor with
  | start size =>
      by_cases hconsumed : response.consumed = true
      · cases (begin_of_consumed hconsumed size).symm.trans h
      · exact hruns (begin_runs (Bool.eq_false_iff.mpr hconsumed) size)
  | finished =>
      cases h
      rfl
  | counted | chunks | rest => exact hruns (resume_runs _ response)

/-! ## The whole body -/

/-- An iteration from a cursor to its end: the pieces that it gives, in order, the failure that ends
it, if one does, and the response that it leaves. -/
inductive Iterates :
    Cursor → Response → List Bytes → Option Failure → Response → Prop
  | stops {cursor cursor' : Cursor} {response after : Response}
      (hadvance : advance cursor response = .ok (none, cursor') after) :
      Iterates cursor response [] none after
  | fails {cursor : Cursor} {response after : Response} {failure : Failure}
      (hadvance : advance cursor response = .error failure after) :
      Iterates cursor response [] (some failure) after
  | gives {cursor cursor' : Cursor} {response between after : Response} {octets : Bytes}
      {pieces : List Bytes} {failure? : Option Failure}
      (hadvance : advance cursor response = .ok (some octets, cursor') between)
      (hrest : Iterates cursor' between pieces failure? after) :
      Iterates cursor response (octets :: pieces) failure? after

theorem iterates_drainFrom (cursor : Cursor) (response : Response) :
    Iterates cursor response (response.drainFrom cursor).pieces
      (response.drainFrom cursor).failure (response.drainFrom cursor).response := by
  fun_induction drainFrom cursor response with
  | case1 cursor response octets cursor' between hadvance rest ih => exact .gives hadvance ih
  | case2 cursor response cursor' between hadvance => exact .stops hadvance
  | case3 cursor response failure between hadvance => exact .fails hadvance

/-- An iteration has one end, and it is the one that draining the body comes to. -/
theorem iterates_iff {cursor : Cursor} {response after : Response} {pieces : List Bytes}
    {failure? : Option Failure} :
    Iterates cursor response pieces failure? after ↔
      response.drainFrom cursor = ⟨pieces, failure?, after⟩ := by
  constructor
  · intro h
    induction h with
    | stops hadvance => rw [drainFrom_eq, hadvance]
    | fails hadvance => rw [drainFrom_eq, hadvance]
    | gives hadvance hrest ih =>
        rw [drainFrom_eq, hadvance]
        dsimp only
        rw [ih]
  · intro h
    have hiterates := iterates_drainFrom cursor response
    rwa [h] at hiterates

theorem collect_silent (cursor : Cursor) (reader : Reader) :
    reader.transport.socket.Transfers [] (collect cursor reader).left.transport.socket := by
  fun_induction collect cursor reader with
  | case1 cursor reader octets cursor' after hpiece ih =>
      exact ((Silent.piece cursor).ok hpiece).silent ih
  | case2 cursor reader cursor' after hpiece => exact (Silent.piece cursor).ok hpiece
  | case3 cursor reader failure after hpiece => exact (Silent.piece cursor).error hpiece

theorem left_read (response : Response) :
    Step.left (Response.read response) = response.drain.response := by
  unfold Response.read
  dsimp only
  split <;> rfl

/-- Reading whole ends the iteration that it starts. -/
theorem left_read_of_fresh (hfresh : response.consumed = false) :
    response.started.Later (Step.left (Response.read response)) ∧
      (Step.left (Response.read response)).attached = false := by
  have hruns := begin_runs hfresh readChunkSize
  have hadvance : advance (.start readChunkSize) response = begin readChunkSize response := rfl
  rw [left_read, drain, drainFrom_eq, hadvance]
  generalize begin readChunkSize response = result at hruns
  cases hruns with
  | gives silent begun =>
      dsimp only
      rw [drainFrom_of_isBegun begun]
      exact ⟨(Later.withReader (silent.silent (collect_silent _ _))).trans (.close _),
        attached_close _⟩
  | stops silent => exact ⟨(Later.withReader silent).trans (.close _), attached_close _⟩
  | fails silent => exact ⟨(Later.withReader silent).trans (.close _), attached_close _⟩

theorem read_of_consumed (hconsumed : response.consumed = true) :
    Response.read response = .error .responseConsumed response := by
  have hdrain : response.drain = ⟨[], some .responseConsumed, response⟩ := by
    have hadvance : advance (.start readChunkSize) response =
        .error .responseConsumed response := begin_of_consumed hconsumed readChunkSize
    rw [drain, drainFrom_eq, hadvance]
  simp only [Response.read, hdrain]

/-- Reading text is reading, and nothing else happens to the response. -/
theorem left_readText (encoding : Text) (response : Response) :
    Step.left (readText encoding response) = Step.left (Response.read response) := by
  unfold readText
  change Step.left (EStateM.bind _ _ response) = _
  unfold EStateM.bind
  cases Response.read response with
  | error failure after => rfl
  | ok octets after =>
      cases Charset.ofName encoding with
      | error defect =>
          dsimp only
          split <;> rfl
      | ok charset =>
          dsimp only
          split
          next => rfl
          next => cases charset.decode? octets <;> rfl

theorem readText_of_consumed (hconsumed : response.consumed = true) (encoding : Text) :
    readText encoding response = .error .responseConsumed response := by
  change EStateM.bind _ _ response = _
  simp only [EStateM.bind, read_of_consumed hconsumed]

end Response

end HttpFetch
