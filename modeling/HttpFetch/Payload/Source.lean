import HttpFetch.Stream.Socket

/-!
# Sources of payloads

A source gives data piece by piece: octets held in memory, a list of pieces that are cut when
less is asked for, or a reader that follows a script of its own. `pending` bounds what a source
still gives and gets smaller with every piece.
-/

namespace HttpFetch

inductive Source
  | memory (octets : Bytes)
  | pieces (waiting : Bytes) (rest : List Bytes)
  | script (items : List Arrival)
  deriving DecidableEq, Repr

namespace Source

/-- How many octets a request for `size` of them gives; a negative size asks for all. -/
def granted (size : Int) (octets : Bytes) : Nat :=
  if size < 0 then octets.length else size.toNat

/-- The pieces of a list, the first of them put in front of the rest once it has octets. -/
def readPieces (size : Int) : Bytes → List Bytes → Bytes × Source
  | [], [] => ([], .pieces [] [])
  | [], piece :: rest => readPieces size piece rest
  | waiting, rest =>
    let count := granted size waiting
    (waiting.take count, .pieces (waiting.drop count) rest)

/-- Whether a number can count the octets that memory holds. -/
def isIndex (n : Int) : Bool := -(1 <<< 63 : Nat) ≤ n && n < (1 <<< 63 : Nat)

/-- At most `size` octets, or none at the end. A script gives its next item whatever the size. -/
def read (size : Int) : Step Source Bytes := fun source =>
  match source with
  | memory octets =>
    if isIndex size then
      let count := granted size octets
      .ok (octets.take count) (memory (octets.drop count))
    else .error .indexRange (memory octets)
  | pieces waiting rest =>
    let (octets, source) := readPieces size waiting rest
    .ok octets source
  | script [] => .ok [] (script [])
  | script (.data octets :: rest) => .ok octets (script rest)
  | script (.fault cause :: rest) => .error (.fault cause) (script rest)

/-- The length of what a source still gives. -/
def pending : Source → Nat
  | memory octets => octets.length
  | pieces waiting rest => waiting.length + rest.flatten.length
  | script items => Arrival.totalWeight items

theorem readPieces_pending {size : Int} {waiting : Bytes} {rest : List Bytes} :
    (readPieces size waiting rest).2.pending + (readPieces size waiting rest).1.length
      ≤ (pieces waiting rest).pending := by
  fun_induction readPieces size waiting rest with
  | case1 => simp [pending]
  | case2 piece rest ih =>
    simp only [pending, List.flatten_cons, List.length_append, List.length_nil] at *
    omega
  | case3 waiting rest _ count =>
    simp only [pending, List.length_take, List.length_drop]
    omega

/-- What is read is no longer pending. -/
theorem read_pending {size : Int} {source source' : Source} {octets : Bytes}
    (h : read size source = .ok octets source') :
    source'.pending + octets.length ≤ source.pending := by
  unfold read at h
  split at h
  · split at h
    · injection h with h1 h2
      subst h1 h2
      simp only [pending, List.length_take, List.length_drop]
      omega
    · cases h
  · injection h with h1 h2
    subst h1 h2
    exact readPieces_pending
  · injection h with h1 h2
    subst h1 h2
    simp [pending]
  · injection h with h1 h2
    subst h1 h2
    simp only [pending, Arrival.totalWeight, Arrival.weight]
    omega
  · cases h

end Source

end HttpFetch
