import HttpFetch.Stream.Reader
import Mathlib.Tactic

/-!
# What a connection supplies

A peer that ends without a fault supplies one byte string, however it is cut into items: what a
reader has buffered followed by what is not delivered yet.  `Reader.Supplies` names that string.
Every reading step of a reader over such a peer succeeds or fails as the string alone tells, and
leaves a reader that supplies the rest of it.  So no later argument looks at items or buffers.
-/

namespace HttpFetch

namespace Arrival

/-- The octets of an item; a fault brings none. -/
def octets : Arrival → Bytes
  | data octets => octets
  | fault _ => []

def delivered (arrivals : List Arrival) : Bytes := arrivals.flatMap octets

/-- Whether a peer ends without a fault. Over TLS its last item may say that it is done. -/
def endsWell (overTls : Bool) : List Arrival → Bool
  | [] => true
  | .data _ :: rest => endsWell overTls rest
  | [.fault cause] => overTls && cause.family == .tlsClosed
  | .fault _ :: _ => false

@[simp] theorem delivered_nil : delivered [] = [] := rfl

@[simp] theorem delivered_data (octets : Bytes) (rest : List Arrival) :
    delivered (.data octets :: rest) = octets ++ delivered rest := rfl

@[simp] theorem delivered_fault (cause : Fault) (rest : List Arrival) :
    delivered (.fault cause :: rest) = delivered rest := rfl

@[simp] theorem delivered_map_data (pieces : List Bytes) :
    delivered (pieces.map .data) = pieces.flatten := by
  induction pieces with
  | nil => rfl
  | cons piece pieces ih =>
      simp [ih]

@[simp] theorem delivered_append (arrivals rest : List Arrival) :
    delivered (arrivals ++ rest) = delivered arrivals ++ delivered rest :=
  List.flatMap_append ..

@[simp] theorem endsWell_map_data_append
    (overTls : Bool) (pieces : List Bytes) (rest : List Arrival) :
    endsWell overTls (pieces.map .data ++ rest) = endsWell overTls rest := by
  induction pieces with
  | nil => rfl
  | cons piece pieces ih =>
      simpa [endsWell] using ih

end Arrival

namespace Socket

theorem take_of_endsWell
    {size : Nat} (hsize : 0 < size) {overTls : Bool} {arrivals : List Arrival}
    (hwell : Arrival.endsWell overTls arrivals = true) :
    (∃ octets rest, take size arrivals = (.ok octets, rest) ∧ octets ≠ [] ∧
        Arrival.endsWell overTls rest = true ∧
        octets ++ Arrival.delivered rest = Arrival.delivered arrivals) ∨
      (Arrival.delivered arrivals = [] ∧
        (take size arrivals = (.ok [], []) ∨
          ∃ cause, take size arrivals = (.error cause, []) ∧
            (overTls && cause.family == .tlsClosed) = true)) := by
  fun_induction take size arrivals with
  | case1 =>
      right
      exact ⟨rfl, Or.inl rfl⟩
  | case2 cause rest =>
      right
      cases rest with
      | nil => exact ⟨rfl, Or.inr ⟨cause, rfl, hwell⟩⟩
      | cons arrival rest => simp [Arrival.endsWell] at hwell
  | case3 rest ih =>
      exact ih hwell
  | case4 octets rest hne left =>
      left
      refine ⟨octets.take size, _, rfl, ?_, ?_, ?_⟩
      · simp only [ne_eq, List.take_eq_nil_iff, not_or]
        exact ⟨by omega, hne⟩
      · split
        · exact hwell
        · exact hwell
      · split
        next hleft =>
          have hall : octets.take size = octets := by
            rw [List.take_eq_self_iff]
            simpa [left] using hleft
          rw [hall]
          rfl
        next =>
          simp only [left, Arrival.delivered_data, ← List.append_assoc, List.take_append_drop]

end Socket

namespace Transport

/-- What the peer of a transport has not delivered yet. -/
def undelivered (transport : Transport) : Bytes :=
  Arrival.delivered transport.socket.script.arrivals

/-- Whether the peer of a transport ends without a fault. -/
def endsWell (transport : Transport) : Bool :=
  Arrival.endsWell transport.isTls transport.socket.script.arrivals

theorem read_of_endsWell
    {size : Nat} (hsize : 0 < size) {transport : Transport}
    (hwell : transport.endsWell = true) :
    ∃ octets transport', transport.read size = .ok octets transport' ∧
      transport'.endsWell = true ∧
      octets ++ transport'.undelivered = transport.undelivered ∧
      (octets = [] → transport.undelivered = []) := by
  unfold Transport.read Socket.receive
  rcases Socket.take_of_endsWell hsize hwell with
    ⟨octets, rest, htake, hne, hrest, hoctets⟩ | ⟨hnone, htake | ⟨cause, htake, hclosed⟩⟩
  · refine ⟨octets, transport.withSocket
      (((transport.socket.setTimeout transport.readTimeout).withArrivals rest).record
        (.receive size (some octets))), ?_, hrest, hoctets, fun h => absurd h hne⟩
    simp [Socket.setTimeout, Socket.record, htake]
  · refine ⟨[], transport.withSocket
      (((transport.socket.setTimeout transport.readTimeout).withArrivals []).record
        (.receive size (some []))), ?_, rfl, ?_, fun _ => hnone⟩
    · simp [Socket.setTimeout, Socket.record, htake]
    · exact hnone.symm
  · refine ⟨[], transport.withSocket
      (((transport.socket.setTimeout transport.readTimeout).withArrivals []).record
        (.receive size none)), ?_, rfl, ?_, fun _ => hnone⟩
    · simp only [Socket.setTimeout, Socket.record, htake, hclosed, if_true]
    · exact hnone.symm

end Transport

namespace Reader

/-- What a reader can still give: what it has buffered, and what is not delivered yet. -/
def leftover (reader : Reader) : Bytes := reader.buffer ++ reader.transport.undelivered

/-- A reader supplies some octets when its peer delivers them and ends without a fault. -/
structure Supplies (reader : Reader) (octets : Bytes) : Prop where
  leftover_eq : reader.leftover = octets
  endsWell : reader.transport.endsWell = true
  exhausted : reader.ended = true → reader.transport.undelivered = []

theorem supplies_ofTransport {transport : Transport} (hwell : transport.endsWell = true) :
    (ofTransport transport).Supplies transport.undelivered :=
  ⟨rfl, hwell, fun h => by cases h⟩

theorem Supplies.buffer_prefix {reader : Reader} {octets : Bytes} (h : reader.Supplies octets) :
    reader.buffer <+: octets := by
  rw [← h.leftover_eq]
  exact List.prefix_append _ _

/-- Filling a reader does not change what it supplies. When nothing more comes, all of it is
buffered. -/
theorem Supplies.fill {reader : Reader} {octets : Bytes} (h : reader.Supplies octets) :
    ∃ more reader', Reader.fill reader = .ok more reader' ∧ reader'.Supplies octets ∧
      (more = false → reader.buffer = octets ∧ reader'.buffer = octets) ∧
      (more = true → reader'.buffer ≠ []) := by
  unfold Reader.fill
  by_cases hended : reader.ended = true
  · have hbuffer : reader.buffer = octets := by
      have := h.leftover_eq
      rwa [leftover, h.exhausted hended, List.append_nil] at this
    exact ⟨false, reader, by rw [if_pos hended], h, fun _ => ⟨hbuffer, hbuffer⟩, by simp⟩
  · rw [if_neg hended]
    obtain ⟨got, transport, hread, hwell, hgot, hend⟩ :=
      Transport.read_of_endsWell (show 0 < readChunkSize by decide) h.endsWell
    rw [hread]
    cases got with
    | nil =>
        have hnone := hend rfl
        have hnone' : transport.undelivered = [] := by simpa [hnone] using hgot
        have hbuffer : reader.buffer = octets := by
          have := h.leftover_eq
          rwa [leftover, hnone, List.append_nil] at this
        refine ⟨false, _, rfl, ⟨?_, hwell, fun _ => hnone'⟩, fun _ => ⟨hbuffer, hbuffer⟩, by simp⟩
        simp [leftover, hnone', hbuffer]
    | cons b got =>
        refine ⟨true, _, rfl, ⟨?_, hwell, fun hend => absurd hend hended⟩, by simp, by simp⟩
        rw [← h.leftover_eq, leftover, leftover, ← hgot, List.append_assoc]

theorem Supplies.of_fill
    {reader reader' : Reader} {octets : Bytes} {more : Bool} (h : reader.Supplies octets)
    (hfill : Reader.fill reader = .ok more reader') :
    reader'.Supplies octets ∧
      (more = false → reader.buffer = octets ∧ reader'.buffer = octets) ∧
      (more = true → reader'.buffer ≠ []) := by
  obtain ⟨more', reader'', hfill', hsupplies, hend, hmore⟩ := h.fill
  rw [hfill] at hfill'
  injection hfill' with hm hr
  subst hm hr
  exact ⟨hsupplies, hend, hmore⟩

theorem Supplies.fill_ne_error
    {reader reader' : Reader} {octets : Bytes} {failure : Failure} (h : reader.Supplies octets) :
    Reader.fill reader ≠ .error failure reader' := by
  obtain ⟨more, reader'', hfill, -⟩ := h.fill
  rw [hfill]
  exact fun h => by cases h

theorem Supplies.takeBuffered
    {reader : Reader} {octets : Bytes} (h : reader.Supplies octets) {count : Nat}
    (hcount : count ≤ reader.buffer.length) :
    ∃ reader', Reader.takeBuffered count reader = .ok (octets.take count) reader' ∧
      reader'.Supplies (octets.drop count) := by
  have hoctets := h.leftover_eq
  unfold leftover at hoctets
  refine ⟨reader.withBuffer (reader.buffer.drop count), ?_, ?_, h.endsWell, h.exhausted⟩
  · rw [← hoctets, List.take_append_of_le_length hcount]
    rfl
  · rw [← hoctets, List.drop_append_of_le_length hcount]
    rfl

end Reader

/-! ## Peers that deliver everything -/

/-- The peer of a transport delivers some octets, in any cut, and then ends: without a further item,
or over TLS by saying that it is done. -/
def Transport.Delivers (transport : Transport) (octets : Bytes) : Prop :=
  ∃ items : List Bytes, items.flatten = octets ∧
    (transport.socket.script.arrivals = items.map .data ∨
      (transport.isTls = true ∧ ∃ cause : Fault, cause.family = .tlsClosed ∧
        transport.socket.script.arrivals = items.map .data ++ [.fault cause]))

theorem Transport.Delivers.supplies
    {transport : Transport} {octets : Bytes} (h : transport.Delivers octets) :
    (Reader.ofTransport transport).Supplies octets := by
  obtain ⟨items, rfl, harrivals | ⟨htls, cause, hclosed, harrivals⟩⟩ := h
  · have hwell : transport.endsWell = true := by
      rw [Transport.endsWell, harrivals, ← List.append_nil (items.map Arrival.data),
        Arrival.endsWell_map_data_append]
      rfl
    have hsupplies := Reader.supplies_ofTransport hwell
    rwa [Transport.undelivered, harrivals, Arrival.delivered_map_data] at hsupplies
  · have hwell : transport.endsWell = true := by
      rw [Transport.endsWell, harrivals, htls, Arrival.endsWell_map_data_append]
      simp [Arrival.endsWell, hclosed]
    have hsupplies := Reader.supplies_ofTransport hwell
    rw [Transport.undelivered, harrivals] at hsupplies
    simpa using hsupplies

/-- A transport on which nothing has been done, over a socket that takes all that is sent. -/
def Transport.ofArrivals (isTls : Bool) (arrivals : List Arrival) : Transport :=
  .make (.ofScript ⟨arrivals, none, none, none⟩) isTls none none

/-! ## Lines -/

namespace Bytes

/-- The first line of some octets with its line feed, or all of them when there is none. -/
def firstLine : Bytes → Bytes
  | [] => []
  | b :: rest => if b = 10 then [b] else b :: firstLine rest

def afterLine : Bytes → Bytes
  | [] => []
  | b :: rest => if b = 10 then rest else afterLine rest

@[simp] theorem firstLine_append_afterLine (octets : Bytes) :
    firstLine octets ++ afterLine octets = octets := by
  induction octets with
  | nil => rfl
  | cons b rest ih =>
      by_cases hb : b = 10
      · simp [firstLine, afterLine, hb]
      · simp [firstLine, afterLine, hb, ih]

@[simp] theorem firstLine_eq_nil {octets : Bytes} : firstLine octets = [] ↔ octets = [] := by
  cases octets with
  | nil => simp [firstLine]
  | cons b rest =>
      by_cases hb : b = 10 <;> simp [firstLine, hb]

theorem length_afterLine (octets : Bytes) :
    (afterLine octets).length + (firstLine octets).length = octets.length := by
  conv_rhs => rw [← firstLine_append_afterLine octets, List.length_append]
  omega

/-- A line that ends within some octets is their first line whatever follows them. -/
theorem firstLine_append_of_mem {octets : Bytes} (h : (10 : UInt8) ∈ octets) (more : Bytes) :
    firstLine (octets ++ more) = firstLine octets ∧
      afterLine (octets ++ more) = afterLine octets ++ more := by
  induction octets with
  | nil => simp at h
  | cons b rest ih =>
      by_cases hb : b = 10
      · simp [firstLine, afterLine, hb]
      · have hrest : (10 : UInt8) ∈ rest := by
          simpa [Ne.symm hb] using h
        simpa [firstLine, afterLine, hb] using ih hrest

theorem firstLine_of_notMem {octets : Bytes} (h : (10 : UInt8) ∉ octets) :
    firstLine octets = octets ∧ afterLine octets = [] := by
  induction octets with
  | nil => exact ⟨rfl, rfl⟩
  | cons b rest ih =>
      rw [List.mem_cons, not_or] at h
      simpa [firstLine, afterLine, Ne.symm h.1] using ih h.2

theorem firstLine_of_line {line : Bytes} (h : (10 : UInt8) ∉ line) (rest : Bytes) :
    firstLine (line ++ 10 :: rest) = line ++ [10] ∧ afterLine (line ++ 10 :: rest) = rest := by
  induction line with
  | nil => simp [firstLine, afterLine]
  | cons b line ih =>
      rw [List.mem_cons, not_or] at h
      simpa [firstLine, afterLine, Ne.symm h.1] using ih h.2

theorem lineLength_eq (octets : Bytes) :
    Reader.lineLength? octets =
      if (10 : UInt8) ∈ octets then some (firstLine octets).length else none := by
  induction octets with
  | nil => rfl
  | cons b rest ih =>
      unfold Reader.lineLength? at ih ⊢
      rw [List.idxOf?_cons]
      by_cases hb : b = 10
      · simp [firstLine, hb]
      · have hb' : ¬ (10 : UInt8) = b := fun h => hb h.symm
        by_cases hmem : (10 : UInt8) ∈ rest
        · rw [if_pos hmem] at ih
          simpa [firstLine, hb, hb', hmem] using ih
        · simp [hb, hb', hmem]

theorem length_lt_firstLine_append {octets : Bytes} (h : (10 : UInt8) ∉ octets) {more : Bytes}
    (hmore : (10 : UInt8) ∈ more) : octets.length < (firstLine (octets ++ more)).length := by
  induction octets with
  | nil =>
      have : firstLine more ≠ [] := by
        rw [ne_eq, firstLine_eq_nil]
        exact List.ne_nil_of_mem hmore
      simpa [List.length_pos_iff] using this
  | cons b rest ih =>
      rw [List.mem_cons, not_or] at h
      simpa [firstLine, Ne.symm h.1] using ih h.2

end Bytes

namespace Reader

theorem Supplies.takeLine
    {reader : Reader} {octets : Bytes} (h : reader.Supplies octets) {count : Nat}
    (hcount : count = (Bytes.firstLine octets).length)
    (hle : count ≤ reader.buffer.length) :
    ∃ reader', Reader.takeBuffered count reader = .ok (Bytes.firstLine octets) reader' ∧
      reader'.Supplies (Bytes.afterLine octets) := by
  obtain ⟨reader', htake, hrest⟩ := h.takeBuffered hle
  have hsplit := Bytes.firstLine_append_afterLine octets
  refine ⟨reader', ?_, ?_⟩
  · rw [htake, hcount]
    congr 1
    exact (List.prefix_iff_eq_take.mp ⟨_, hsplit⟩).symm
  · have hdrop : octets.drop count = Bytes.afterLine octets := by
      conv_lhs => rw [← hsplit, hcount]
      exact List.drop_left
    rwa [hdrop] at hrest

/-- A line within the limit is read whole, however it arrives. -/
theorem Supplies.readLine
    {limit : Int} {reader : Reader} {octets : Bytes} (h : reader.Supplies octets)
    (hlimit : (Bytes.firstLine octets).length ≤ limit) :
    ∃ reader', Reader.readLine limit reader = .ok (Bytes.firstLine octets) reader' ∧
      reader'.Supplies (Bytes.afterLine octets) := by
  -- The buffer grows until it holds the line; it does not pass the limit before.
  fun_induction Reader.readLine limit reader with
  | case1 reader count hcount =>
      rw [Bytes.lineLength_eq] at hcount
      split at hcount
      next hmem =>
        injection hcount with hcount
        obtain ⟨rest, hrest⟩ := h.buffer_prefix
        have hfirst := (Bytes.firstLine_append_of_mem hmem rest).1
        rw [hrest] at hfirst
        have hlength := Bytes.length_afterLine reader.buffer
        exact h.takeLine (by rw [hfirst, hcount]) (by omega)
      next => cases hcount
  | case2 reader hnone hfull =>
      obtain ⟨rest, hrest⟩ := h.buffer_prefix
      have hbuffer : (10 : UInt8) ∉ reader.buffer := by
        intro hmem
        rw [Bytes.lineLength_eq, if_pos hmem] at hnone
        cases hnone
      have hnot : (10 : UInt8) ∉ octets := by
        intro hmem
        rw [← hrest, List.mem_append] at hmem
        have hlong := Bytes.length_lt_firstLine_append hbuffer (hmem.resolve_left hbuffer)
        rw [hrest] at hlong
        omega
      have hall := (Bytes.firstLine_of_notMem hnot).1
      have hlength : octets.length = reader.buffer.length + rest.length := by
        rw [← hrest, List.length_append]
      rw [hall] at hlimit
      refine h.takeLine ?_ ?_
      · rw [hall]
        unfold limited
        split <;> omega
      · unfold limited
        split <;> omega
  | case3 reader hnone hroom more hfill ih =>
      exact ih (h.of_fill hfill).1
  | case4 reader hnone hroom all hfill =>
      obtain ⟨hall, hend, -⟩ := h.of_fill hfill
      obtain ⟨hbefore, hafter⟩ := hend rfl
      have hnot : (10 : UInt8) ∉ octets := by
        intro hmem
        rw [hbefore, Bytes.lineLength_eq, if_pos hmem] at hnone
        cases hnone
      have hline := (Bytes.firstLine_of_notMem hnot).1
      rw [hline] at hlimit
      refine hall.takeLine ?_ ?_
      · rw [hline, hafter]
        unfold limited
        split <;> omega
      · unfold limited
        split <;> omega
  | case5 reader hnone hroom failure reader' hfill =>
      exact absurd hfill h.fill_ne_error

/-! ## Blocks -/

theorem Supplies.takeSome
    {reader : Reader} {octets : Bytes} (h : reader.Supplies octets) (size : Nat) :
    ∃ reader', Reader.takeBuffered size reader =
        .ok (octets.take (min size reader.buffer.length)) reader' ∧
      reader'.Supplies (octets.drop (min size reader.buffer.length)) := by
  obtain ⟨reader', htake, hrest⟩ :=
    h.takeBuffered (Nat.min_le_right size reader.buffer.length)
  refine ⟨reader', ?_, hrest⟩
  rw [← htake]
  unfold Reader.takeBuffered
  rcases Nat.le_total size reader.buffer.length with hle | hle
  · rw [Nat.min_eq_left hle]
  · rw [Nat.min_eq_right hle, List.take_length, List.drop_length, List.take_of_length_le hle,
      List.drop_of_length_le hle]

/-- What is read at once is a beginning of what is supplied, and empty only at its end. -/
theorem Supplies.readSome
    {reader : Reader} {octets : Bytes} (h : reader.Supplies octets) (size : Nat) :
    ∃ got rest reader', Reader.readSome size reader = .ok got reader' ∧
      got ++ rest = octets ∧ got.length ≤ size ∧ reader'.Supplies rest ∧
      (0 < size → got = [] → octets = []) := by
  suffices hfilled : ∀ filled : Reader, filled.Supplies octets →
      (filled.buffer = [] → octets = []) →
      ∃ got rest reader', Reader.takeBuffered size filled = .ok got reader' ∧
        got ++ rest = octets ∧ got.length ≤ size ∧ reader'.Supplies rest ∧
        (0 < size → got = [] → octets = []) by
    unfold Reader.readSome
    split
    next hempty =>
      obtain ⟨more, filled, hfill, hsupplies, hend, hmore⟩ := h.fill
      rw [hfill]
      refine hfilled filled hsupplies ?_
      intro hnone
      cases more with
      | true => exact absurd hnone (hmore rfl)
      | false => rw [← (hend rfl).2, hnone]
    next hfull =>
      exact hfilled reader h (fun hnone => absurd (by simp [hnone]) hfull)
  intro filled hsupplies hnone
  obtain ⟨reader', htake, hrest⟩ := hsupplies.takeSome size
  refine ⟨_, _, reader', htake, List.take_append_drop _ _, ?_, hrest, ?_⟩
  · rw [List.length_take]
    omega
  · intro hsize hgot
    rw [List.take_eq_nil_iff] at hgot
    rcases hgot with hzero | hoctets
    · exact hnone (List.length_eq_zero_iff.mp (by omega))
    · exact hoctets

/-- A block is read whole when it is supplied; otherwise the failure tells what is missing. -/
theorem Supplies.readBlock
    {reader : Reader} {octets : Bytes} (h : reader.Supplies octets)
    (missing : Nat) (got : Bytes) :
    if missing ≤ octets.length then
      ∃ reader', Reader.readBlock missing got reader = .ok (got ++ octets.take missing) reader' ∧
        reader'.Supplies (octets.drop missing)
    else
      ∃ reader', Reader.readBlock missing got reader =
          .error (.ofMissing (missing - octets.length)) reader' ∧
        reader'.Supplies [] := by
  fun_induction Reader.readBlock missing got reader generalizing octets with
  | case1 got reader =>
      simpa using h
  | case2 missing got reader hmissing reader' hread =>
      obtain ⟨got', rest, reader'', hread', hoctets, -, hrest, hend⟩ :=
        h.readSome missing
      rw [hread] at hread'
      injection hread' with hgot hreader
      subst hgot hreader
      have hnone := hend (by omega) rfl
      subst hnone
      have hrest' : rest = [] := by simpa using hoctets
      rw [if_neg (by simpa using hmissing)]
      exact ⟨reader', rfl, hrest' ▸ hrest⟩
  | case3 missing got reader hmissing b piece reader' hread ih =>
      obtain ⟨got', rest, reader'', hread', hoctets, hle, hrest, -⟩ :=
        h.readSome missing
      rw [hread] at hread'
      injection hread' with hgot hreader
      subst hgot hreader
      have hlength : octets.length = piece.length + 1 + rest.length := by
        rw [← hoctets]
        simp only [List.length_append, List.length_cons]
      rw [List.length_cons] at hle
      have htake : octets.take missing =
          b :: piece ++ rest.take (missing - (piece.length + 1)) := by
        rw [← hoctets, List.take_append, List.take_of_length_le (by simpa using hle)]
        rfl
      have hdrop : octets.drop missing = rest.drop (missing - (piece.length + 1)) := by
        rw [← hoctets, List.drop_append, List.drop_of_length_le (by simpa using hle)]
        rfl
      have hih := ih hrest
      rw [htake, hdrop]
      split at hih
      next hcovered =>
        rw [if_pos (by omega)]
        simpa using hih
      next hshort =>
        rw [if_neg (by omega)]
        have hmissing : missing - (piece.length + 1) - rest.length = missing - octets.length := by
          omega
        rwa [hmissing] at hih
  | case4 missing got reader hmissing failure reader' hread =>
      obtain ⟨got', rest, reader'', hread', -⟩ := h.readSome missing
      rw [hread] at hread'
      cases hread'

end Reader

end HttpFetch
