import HttpFetch.Proofs.Stream.Transfer
import HttpFetch.Proofs.Stream.Waiting

/-!
# Nothing is lost in a reader

A reader is asked for lines and blocks in any order, over a connection that may fault at any time.
Each call receives as often as it needs to and hands out a part of what has been received; the rest
stays in the buffer.  `Reader.calls_conserve` says that what the transport has answered so far is
what the calls have handed out, in their order, followed by the buffer, also when some of them
failed, and that the transport is not asked again once it has answered with the end of the data.
-/

namespace HttpFetch

namespace Transport

/-- The answers of a transport that is read one time after another, and what becomes of it. -/
inductive Answers (start : Transport) : List (Except Failure Bytes) → Transport → Prop
  | nil : Answers start [] start
  | ok {answers : List (Except Failure Bytes)} {before after : Transport} {octets : Bytes}
      (earlier : Answers start answers before)
      (answer : before.read readChunkSize = .ok octets after) :
      Answers start (answers ++ [.ok octets]) after
  | error {answers : List (Except Failure Bytes)} {before after : Transport} {failure : Failure}
      (earlier : Answers start answers before)
      (answer : before.read readChunkSize = .error failure after) :
      Answers start (answers ++ [.error failure]) after

def answerOctets : Except Failure Bytes → Bytes
  | .ok octets => octets
  | .error _ => []

/-- The octets that some answers bring. -/
def answered (answers : List (Except Failure Bytes)) : Bytes := answers.flatMap answerOctets

theorem answered_concat (answers : List (Except Failure Bytes)) (answer : Except Failure Bytes) :
    answered (answers ++ [answer]) = answered answers ++ answerOctets answer := by
  simp [answered]

/-- A read asks the socket once, and brings what the socket received. -/
theorem read_history (size : Nat) (transport : Transport) :
    ∃ got : Option Bytes,
      (Step.left (transport.read size)).socket.history =
        transport.socket.history ++
          [.setTimeout transport.readTimeout, .receive size got] ∧
      (∀ octets after, transport.read size = .ok octets after → octets = got.getD []) ∧
      (∀ failure after, transport.read size = .error failure after → got = none) := by
  unfold read Socket.receive
  cases htake : Socket.take size
      (transport.socket.setTimeout transport.readTimeout).script.arrivals with
  | mk taken rest =>
      cases taken with
      | ok octets =>
          refine ⟨some octets, List.append_assoc .., ?_, ?_⟩
          · rintro _ _ ⟨⟩
            rfl
          · rintro _ _ ⟨⟩
      | error cause =>
          refine ⟨none, ?_, ?_, fun _ _ _ => rfl⟩
          · simp only
            split <;> exact List.append_assoc ..
          · simp only
            split
            · rintro _ _ ⟨⟩
              rfl
            · rintro _ _ ⟨⟩

theorem receiveCount_read (size : Nat) (transport : Transport) :
    (Step.left (transport.read size)).socket.receiveCount =
      transport.socket.receiveCount + 1 := by
  obtain ⟨got, hhistory, -⟩ := transport.read_history size
  rw [Socket.receiveCount, hhistory]
  simp [Socket.receiveCount]

/-- The answers are what the socket has received, one receipt for each. -/
theorem Answers.received {start transport : Transport} {answers : List (Except Failure Bytes)}
    (h : start.Answers answers transport) :
    transport.socket.receiveCount = start.socket.receiveCount + answers.length ∧
      ∃ events, transport.socket.history = start.socket.history ++ events ∧
        SocketEvent.received events = answered answers := by
  induction h with
  | nil => exact ⟨rfl, [], (List.append_nil _).symm, rfl⟩
  | @ok answers before after octets _ hread ih =>
      obtain ⟨hcount, events, hevents, hreceived⟩ := ih
      obtain ⟨got, hhistory, hoctets, -⟩ := before.read_history readChunkSize
      have hone := before.receiveCount_read readChunkSize
      rw [hread, Step.left_ok] at hhistory hone
      refine ⟨by rw [hone, hcount, List.length_append, List.length_singleton, Nat.add_assoc],
        events ++ [.setTimeout before.readTimeout, .receive readChunkSize got], ?_, ?_⟩
      · rw [hhistory, hevents, List.append_assoc]
      · rw [answered_concat, ← hreceived, answerOctets, hoctets _ _ hread]
        cases got <;> simp [SocketEvent.received, SocketEvent.octets]
  | @error answers before after failure _ hread ih =>
      obtain ⟨hcount, events, hevents, hreceived⟩ := ih
      obtain ⟨got, hhistory, -, hnone⟩ := before.read_history readChunkSize
      have hone := before.receiveCount_read readChunkSize
      rw [hread, Step.left_error] at hhistory hone
      refine ⟨by rw [hone, hcount, List.length_append, List.length_singleton, Nat.add_assoc],
        events ++ [.setTimeout before.readTimeout, .receive readChunkSize got], ?_, ?_⟩
      · rw [hhistory, hevents, List.append_assoc]
      · rw [answered_concat, ← hreceived, answerOctets, hnone _ _ hread]
        simp [SocketEvent.received, SocketEvent.octets]

end Transport

namespace Reader

/-! ## One call -/

/-- What a reader takes of some missing octets before it has them all or fails. -/
def taken (missing : Nat) (reader : Reader) : Bytes :=
  if missing = 0 then []
  else
    match readSome missing reader with
    | .ok [] _ => []
    | .ok (b :: octets) reader => b :: octets ++ taken (missing - (octets.length + 1)) reader
    | .error _ _ => []
termination_by missing
decreasing_by omega

theorem taken_of_piece {missing : Nat} (hmissing : ¬ missing = 0) {reader reader' : Reader}
    {b : UInt8} {octets : Bytes} (hread : readSome missing reader = .ok (b :: octets) reader') :
    taken missing reader = b :: octets ++ taken (missing - (octets.length + 1)) reader' := by
  rw [taken, if_neg hmissing, hread]

/-- A block that is read whole is what was taken. -/
theorem eq_of_readBlock {missing : Nat} {got octets : Bytes} {reader reader' : Reader}
    (h : readBlock missing got reader = .ok octets reader') :
    octets = got ++ taken missing reader := by
  fun_induction readBlock missing got reader with
  | case1 got reader =>
      cases h
      rw [taken, if_pos rfl, List.append_nil]
  | case2 => cases h
  | case3 missing got reader hmissing b piece reader'' hread ih =>
      rw [ih h, taken_of_piece hmissing hread, List.append_assoc]
  | case4 => cases h

/-- Over a transport that has been read since its start: all that was answered has been handed out
or is buffered, and only a reader that has ended has been told of the end, and that as its last
answer. -/
def Accounts (start : Transport) (handed : Bytes) (reader : Reader) : Prop :=
  ∃ answers, start.Answers answers reader.transport ∧
    Transport.answered answers = handed ++ reader.buffer ∧
    ∀ earlier later, answers = earlier ++ .ok [] :: later → later = [] ∧ reader.ended = true

theorem accounts_ofTransport (transport : Transport) :
    (ofTransport transport).Accounts transport [] :=
  ⟨[], .nil, rfl, fun earlier later h => by simp at h⟩

namespace Accounts

variable {start : Transport} {handed : Bytes} {reader : Reader}

theorem fill (h : reader.Accounts start handed) :
    (Step.left (Reader.fill reader)).Accounts start handed := by
  obtain ⟨answers, hanswers, hoctets, hends⟩ := h
  unfold Reader.fill
  by_cases hended : reader.ended = true
  · rw [if_pos hended]
    exact ⟨answers, hanswers, hoctets, hends⟩
  · rw [if_neg hended]
    -- So far there was no end, so the only one can be the new answer.
    have hnew : ∀ {answer earlier later}, answers ++ [answer] = earlier ++ .ok [] :: later →
        later = [] ∧ answer = .ok [] := by
      intro answer earlier later h
      rcases List.eq_nil_or_concat later with rfl | ⟨later, last, rfl⟩
      · exact ⟨rfl, List.singleton_inj.mp (List.append_inj' h rfl).2⟩
      · rw [List.concat_eq_append, ← List.cons_append, ← List.append_assoc] at h
        exact absurd (hends _ _ (List.append_inj' h rfl).1).2 hended
    cases hread : reader.transport.read readChunkSize with
    | error failure transport =>
        refine ⟨answers ++ [.error failure], .error hanswers hread, ?_, ?_⟩
        · rw [Transport.answered_concat, hoctets]
          exact List.append_nil _
        · intro earlier later h
          exact absurd (hnew h).2 nofun
    | ok octets transport =>
        cases octets with
        | nil =>
            refine ⟨answers ++ [.ok []], .ok hanswers hread, ?_, ?_⟩
            · rw [Transport.answered_concat, hoctets]
              exact List.append_nil _
            · intro earlier later h
              exact ⟨(hnew h).1, rfl⟩
        | cons b octets =>
            refine ⟨answers ++ [.ok (b :: octets)], .ok hanswers hread, ?_, ?_⟩
            · rw [Transport.answered_concat, hoctets]
              exact List.append_assoc ..
            · intro earlier later h
              exact absurd (hnew h).2 nofun

theorem of_fill {reader' : Reader} {more : Bool} (h : reader.Accounts start handed)
    (hfill : Reader.fill reader = .ok more reader') : reader'.Accounts start handed := by
  have hleft := h.fill
  rwa [hfill] at hleft

theorem of_fill_error {reader' : Reader} {failure : Failure} (h : reader.Accounts start handed)
    (hfill : Reader.fill reader = .error failure reader') : reader'.Accounts start handed := by
  have hleft := h.fill
  rwa [hfill] at hleft

theorem withBuffer (h : reader.Accounts start handed) {octets buffer : Bytes}
    (hsplit : octets ++ buffer = reader.buffer) :
    (reader.withBuffer buffer).Accounts start (handed ++ octets) := by
  obtain ⟨answers, hanswers, hoctets, hends⟩ := h
  refine ⟨answers, hanswers, ?_, hends⟩
  rw [hoctets, ← hsplit]
  exact (List.append_assoc ..).symm

end Accounts

/-- What a call that gives octets hands out is accounted for, and nothing is if it fails. -/
def HandsOut (start : Transport) (handed : Bytes) :
    EStateM.Result Failure Reader Bytes → Prop
  | .ok octets reader => reader.Accounts start (handed ++ octets)
  | .error _ reader => reader.Accounts start handed

namespace Accounts

variable {start : Transport} {handed : Bytes} {reader : Reader}

theorem takeBuffered (h : reader.Accounts start handed) (count : Nat) :
    HandsOut start handed (Reader.takeBuffered count reader) :=
  h.withBuffer (List.take_append_drop count reader.buffer)

theorem readLine (h : reader.Accounts start handed) (limit : Int) :
    HandsOut start handed (Reader.readLine limit reader) := by
  fun_induction Reader.readLine limit reader with
  | case1 reader count hcount => exact h.takeBuffered count
  | case2 reader hnone hfull => exact h.takeBuffered _
  | case3 reader hnone hroom more hfill ih => exact ih (h.of_fill hfill)
  | case4 reader hnone hroom all hfill => exact (h.of_fill hfill).takeBuffered _
  | case5 reader hnone hroom failure reader' hfill => exact h.of_fill_error hfill

theorem fillAll (h : reader.Accounts start handed) :
    (Step.left (Reader.fillAll reader)).Accounts start handed := by
  fun_induction Reader.fillAll reader with
  | case1 reader more hfill ih => exact ih (h.of_fill hfill)
  | case2 reader all hfill => exact h.of_fill hfill
  | case3 reader failure reader' hfill => exact h.of_fill_error hfill

theorem readAll (h : reader.Accounts start handed) :
    HandsOut start handed (Reader.readAll reader) := by
  have hfilled := h.fillAll
  unfold Reader.readAll
  cases hall : Reader.fillAll reader with
  | ok _ all =>
      rw [hall, Step.left_ok] at hfilled
      exact hfilled.withBuffer (List.append_nil all.buffer)
  | error failure reader' =>
      rw [hall, Step.left_error] at hfilled
      exact hfilled

theorem readSome (h : reader.Accounts start handed) (size : Nat) :
    HandsOut start handed (Reader.readSome size reader) := by
  unfold Reader.readSome
  split
  · cases hfill : Reader.fill reader with
    | ok more filled => exact (h.of_fill hfill).takeBuffered size
    | error failure reader' => exact h.of_fill_error hfill
  · exact h.takeBuffered size

theorem read (h : reader.Accounts start handed) (size : Int) :
    HandsOut start handed (Reader.read size reader) := by
  unfold Reader.read
  split
  · exact h.readAll
  · exact h.readSome size.toNat

/-- What is taken of a block is handed out whether or not the block is read whole. -/
theorem readBlock (h : reader.Accounts start handed) (missing : Nat) (got : Bytes) :
    (Step.left (Reader.readBlock missing got reader)).Accounts start
      (handed ++ taken missing reader) := by
  fun_induction Reader.readBlock missing got reader generalizing handed with
  | case1 got reader =>
      rw [taken, if_pos rfl, List.append_nil]
      exact h
  | case2 missing got reader hmissing reader' hread =>
      have hsome := h.readSome missing
      rw [hread] at hsome
      rw [taken, if_neg hmissing, hread]
      exact hsome
  | case3 missing got reader hmissing b octets reader' hread ih =>
      have hsome := h.readSome missing
      rw [hread] at hsome
      have hrest := ih hsome
      rw [List.append_assoc, ← taken_of_piece hmissing hread] at hrest
      exact hrest
  | case4 missing got reader hmissing failure reader' hread =>
      have hsome := h.readSome missing
      rw [hread] at hsome
      rw [taken, if_neg hmissing, hread, List.append_nil]
      exact hsome

end Accounts

/-! ## Any calls -/

/-- A call on a reader. -/
inductive Call
  | line (limit : Int)
  | some (size : Int)
  | exact (size : Int)
  deriving DecidableEq, Repr

namespace Call

def result : Call → Step Reader Bytes
  | line limit => readLine limit
  | some size => read size
  | exact size => readExact size

def after (call : Call) (reader : Reader) : Reader := Step.left (call.result reader)

/-- What a call hands out: what it gives, and if it fails nothing, unless it has taken a part of an
exact block. -/
def handed (call : Call) (reader : Reader) : Bytes :=
  match call.result reader with
  | .ok octets _ => octets
  | .error _ _ =>
    match call with
    | line _ | some _ => []
    | exact size => taken size.toNat reader

theorem accounts_after (call : Call) {start : Transport} {earlier : Bytes} {reader : Reader}
    (h : reader.Accounts start earlier) :
    (call.after reader).Accounts start (earlier ++ call.handed reader) := by
  unfold after handed
  cases call with
  | line limit =>
      have hline := h.readLine limit
      change HandsOut start earlier (result (line limit) reader) at hline
      cases hresult : result (line limit) reader with
      | ok octets reader' =>
          rw [hresult] at hline
          exact hline
      | error failure reader' =>
          rw [hresult] at hline
          rw [List.append_nil]
          exact hline
  | some size =>
      have hsome := h.read size
      change HandsOut start earlier (result (some size) reader) at hsome
      cases hresult : result (some size) reader with
      | ok octets reader' =>
          rw [hresult] at hsome
          exact hsome
      | error failure reader' =>
          rw [hresult] at hsome
          rw [List.append_nil]
          exact hsome
  | exact size =>
      have hblock := h.readBlock size.toNat []
      change (Step.left (result (exact size) reader)).Accounts start _ at hblock
      cases hresult : result (exact size) reader with
      | ok octets reader' =>
          have hoctets : octets = [] ++ taken size.toNat reader := eq_of_readBlock hresult
          rw [hresult, Step.left_ok] at hblock
          rw [hoctets]
          exact hblock
      | error failure reader' =>
          rw [hresult] at hblock
          exact hblock

end Call

theorem Invariant.call {inv : Reader → Prop} {allowed : Failure → Prop}
    (h : Invariant inv allowed) (call : Call) : Step.Keeps inv allowed call.result := by
  cases call with
  | line limit => exact h.readLine limit
  | some size => exact h.read size
  | exact size => exact h.readExact size

/-- The reader that some calls leave, one after the other. -/
def afterCalls (calls : List Call) (reader : Reader) : Reader :=
  calls.foldl (fun reader call => call.after reader) reader

theorem Invariant.afterCalls {inv : Reader → Prop} {allowed : Failure → Prop}
    (h : Invariant inv allowed) (calls : List Call) {reader : Reader} (hreader : inv reader) :
    inv (afterCalls calls reader) := by
  induction calls generalizing reader with
  | nil => exact hreader
  | cons call calls ih => exact ih ((h.call call).left hreader)

/-- What some calls hand out, one after the other. -/
def handedBy : List Call → Reader → Bytes
  | [], _ => []
  | call :: calls, reader => call.handed reader ++ handedBy calls (call.after reader)

theorem Accounts.afterCalls {start : Transport} {handed : Bytes} {reader : Reader}
    (h : reader.Accounts start handed) (calls : List Call) :
    (Reader.afterCalls calls reader).Accounts start (handed ++ handedBy calls reader) := by
  induction calls generalizing reader handed with
  | nil =>
      rw [handedBy, List.append_nil]
      exact h
  | cons call calls ih =>
      have hrest := ih (call.accounts_after h)
      rw [List.append_assoc] at hrest
      exact hrest

/-- Whatever is called, and however the calls end: what the transport has answered, one answer for
each time that data was asked for, is what was handed out followed by the buffer, and nothing is
asked for after an answer that is the end of the data. -/
theorem calls_conserve (transport : Transport) (calls : List Call) :
    let reader := afterCalls calls (ofTransport transport)
    ∃ answers events,
      transport.Answers answers reader.transport ∧
      reader.transport.socket.receiveCount = transport.socket.receiveCount + answers.length ∧
      reader.transport.socket.history = transport.socket.history ++ events ∧
      SocketEvent.received events = Transport.answered answers ∧
      Transport.answered answers = handedBy calls (ofTransport transport) ++ reader.buffer ∧
      ∀ earlier later, answers = earlier ++ .ok [] :: later → later = [] := by
  intro reader
  obtain ⟨answers, hanswers, hoctets, hends⟩ :=
    (accounts_ofTransport transport).afterCalls calls
  obtain ⟨hcount, events, hhistory, hreceived⟩ := hanswers.received
  refine ⟨answers, events, hanswers, hcount, hhistory, hreceived, hoctets, ?_⟩
  intro earlier later hsplit
  exact (hends earlier later hsplit).1

end Reader

end HttpFetch
