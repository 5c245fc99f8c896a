import HttpFetch.Stream.Transport

/-!
# Buffered readers

A reader takes lines and blocks from a transport. What it received and nobody has read yet waits
in its buffer, so the head of a response and its body can be read one after the other. Every loop
here asks for more only while something is missing, and ends because each item received shortens
what the peer still delivers.
-/

namespace HttpFetch

structure Reader where
  transport : Transport
  buffer : Bytes
  ended : Bool

namespace Reader

def ofTransport (transport : Transport) : Reader := ⟨transport, [], false⟩

/-- The length of what the peer still delivers. -/
def pending (reader : Reader) : Nat := reader.transport.socket.pending

def withTransport (reader : Reader) (transport : Transport) : Reader :=
  { reader with transport := transport }

def withBuffer (reader : Reader) (buffer : Bytes) : Reader := { reader with buffer := buffer }

/-- Receives once more into the buffer; the answer is whether anything came. -/
def fill : Step Reader Bool := fun reader =>
  if reader.ended then .ok false reader
  else
    match reader.transport.read readChunkSize with
    | .ok [] transport => .ok false { reader with transport := transport, ended := true }
    | .ok octets transport =>
      .ok true { reader with transport := transport, buffer := reader.buffer ++ octets }
    | .error failure transport => .error failure (reader.withTransport transport)

/-- Filling the buffer shortens the script. -/
theorem fill_pending {reader reader' : Reader} (h : fill reader = .ok true reader') :
    reader'.pending < reader.pending := by
  unfold fill at h
  split at h
  · injection h with h1 _
    cases h1
  · split at h
    · injection h with h1 _
      cases h1
    · rename_i octets transport hne hr
      injection h with _ h2
      subst h2
      exact Transport.read_pending hr hne
    · cases h

/-- The first octets of the buffer taken out of it. -/
def takeBuffered (count : Nat) (reader : Reader) : EStateM.Result Failure Reader Bytes :=
  .ok (reader.buffer.take count) (reader.withBuffer (reader.buffer.drop count))

/-- How many of `count` octets a limit lets through; a negative one counts from the end. -/
def limited (limit : Int) (count : Nat) : Nat :=
  if 0 ≤ limit then min count limit.toNat else count - limit.natAbs

/-- The length of the first line of some data with its line feed, if it has one. -/
def lineLength? (octets : Bytes) : Option Nat := (octets.idxOf? 10).map (· + 1)

/-- One line with its line feed. Without a line feed in sight it is what was received when the
buffer reached the limit or the data its end. -/
def readLine (limit : Int) (reader : Reader) : EStateM.Result Failure Reader Bytes :=
  match lineLength? reader.buffer with
  | some count => takeBuffered count reader
  | none =>
    if limit ≤ reader.buffer.length then
      takeBuffered (limited limit reader.buffer.length) reader
    else
      match _h : fill reader with
      | .ok true more => readLine limit more
      | .ok false all => takeBuffered (limited limit all.buffer.length) all
      | .error failure reader => .error failure reader
termination_by reader.pending
decreasing_by exact fill_pending (by assumption)

/-- Receives until the data ends. -/
def fillAll (reader : Reader) : EStateM.Result Failure Reader Unit :=
  match _h : fill reader with
  | .ok true more => fillAll more
  | .ok false all => .ok () all
  | .error failure reader => .error failure reader
termination_by reader.pending
decreasing_by exact fill_pending (by assumption)

/-- All remaining data. -/
def readAll (reader : Reader) : EStateM.Result Failure Reader Bytes :=
  match fillAll reader with
  | .ok () all => .ok all.buffer (all.withBuffer [])
  | .error failure reader => .error failure reader

/-- At most `size` octets; it receives only when the buffer is empty. -/
def readSome (size : Nat) (reader : Reader) : EStateM.Result Failure Reader Bytes :=
  if reader.buffer.isEmpty then
    match fill reader with
    | .ok _ reader => takeBuffered size reader
    | .error failure reader => .error failure reader
  else takeBuffered size reader

/-- At most `size` octets, or all remaining ones for a negative size. -/
def read (size : Int) : Step Reader Bytes := fun reader =>
  if size < 0 then readAll reader else readSome size.toNat reader

/-- The given data followed by `missing` more octets. -/
def readBlock (missing : Nat) (got : Bytes) (reader : Reader) :
    EStateM.Result Failure Reader Bytes :=
  if missing = 0 then .ok got reader
  else
    match readSome missing reader with
    | .ok [] reader => .error (.ofMissing missing) reader
    | .ok (b :: octets) reader =>
      readBlock (missing - (octets.length + 1)) (got ++ b :: octets) reader
    | .error failure reader => .error failure reader
termination_by missing
decreasing_by omega

/-- Exactly `size` octets; none for a negative size. -/
def readExact (size : Int) : Step Reader Bytes := readBlock size.toNat []

/-- What a reader can still give: what is buffered, and the length of what the peer delivers. -/
def unread (reader : Reader) : Nat := reader.buffer.length + reader.pending

theorem fill_unread {reader reader' : Reader} {more : Bool}
    (h : fill reader = .ok more reader') : reader'.unread ≤ reader.unread := by
  unfold fill at h
  split at h
  · injection h with _ h2
    subst h2
    exact Nat.le_refl _
  · split at h
    · rename_i hr
      injection h with _ h2
      subst h2
      have := Transport.read_weight hr
      simp only [unread, pending, List.length_nil] at this ⊢
      omega
    · rename_i hr
      injection h with _ h2
      subst h2
      have := Transport.read_weight hr
      simp only [unread, pending, List.length_append] at this ⊢
      omega
    · cases h

theorem takeBuffered_unread {count : Nat} {reader reader' : Reader} {octets : Bytes}
    (h : takeBuffered count reader = .ok octets reader') :
    reader'.unread + octets.length ≤ reader.unread := by
  unfold takeBuffered at h
  injection h with h1 h2
  subst h1 h2
  simp only [unread, pending, withBuffer, List.length_take, List.length_drop]
  omega

/-- A line that is read is no longer unread. -/
theorem readLine_unread {limit : Int} {reader reader' : Reader} {line : Bytes}
    (h : readLine limit reader = .ok line reader') :
    reader'.unread + line.length ≤ reader.unread := by
  fun_induction readLine limit reader with
  | case1 => exact takeBuffered_unread h
  | case2 => exact takeBuffered_unread h
  | case3 reader _ _ more hf ih =>
    have := ih h
    have := fill_unread hf
    omega
  | case4 reader _ _ all hf =>
    have := takeBuffered_unread h
    have := fill_unread hf
    omega
  | case5 => cases h

theorem fillAll_unread {reader reader' : Reader} (h : fillAll reader = .ok () reader') :
    reader'.unread ≤ reader.unread := by
  fun_induction fillAll reader with
  | case1 reader more hf ih =>
    have := ih h
    have := fill_unread hf
    omega
  | case2 reader all hf =>
    injection h with _ h2
    subst h2
    exact fill_unread hf
  | case3 => cases h

theorem readSome_unread {size : Nat} {reader reader' : Reader} {octets : Bytes}
    (h : readSome size reader = .ok octets reader') :
    reader'.unread + octets.length ≤ reader.unread := by
  unfold readSome at h
  split at h
  · split at h
    · rename_i hf
      have := takeBuffered_unread h
      have := fill_unread hf
      omega
    · cases h
  · exact takeBuffered_unread h

/-- What is read is no longer unread. -/
theorem read_unread {size : Int} {reader reader' : Reader} {octets : Bytes}
    (h : read size reader = .ok octets reader') :
    reader'.unread + octets.length ≤ reader.unread := by
  unfold read at h
  split at h
  · unfold readAll at h
    split at h
    · rename_i all hf
      injection h with h1 h2
      subst h1 h2
      have := fillAll_unread hf
      simp only [unread, pending, withBuffer, List.length_nil] at this ⊢
      omega
    · cases h
  · exact readSome_unread h

theorem readBlock_unread {missing : Nat} {got : Bytes} {reader reader' : Reader} {octets : Bytes}
    (h : readBlock missing got reader = .ok octets reader') :
    reader'.unread + octets.length ≤ reader.unread + got.length := by
  fun_induction readBlock missing got reader with
  | case1 =>
    injection h with h1 h2
    subst h1 h2
    omega
  | case2 => cases h
  | case3 missing got reader _ more b octets hr ih =>
    have := ih h
    have := readSome_unread hr
    simp only [List.length_append, List.length_cons] at *
    omega
  | case4 => cases h

theorem readExact_unread {size : Int} {reader reader' : Reader} {octets : Bytes}
    (h : readExact size reader = .ok octets reader') :
    reader'.unread + octets.length ≤ reader.unread := by
  simpa using readBlock_unread h

/-- A reader that drops what it has buffered and closes its transport. -/
def close (reader : Reader) : Reader := { reader with
  buffer := []
  transport := reader.transport.close }

end Reader

end HttpFetch
