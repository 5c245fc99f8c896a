import HttpFetch.Proofs.Chunked.Decoding

/-!
# Bodies decoded at once

A body is collected from a reader piece by piece.  How it is cut into pieces depends on what
arrives when, except for chunks; the octets and the failure that ends them do not.  For each framing
they are a function of the octets that arrive (`Framing.decode`), and `collect_refines` says that
collecting a body over any connection that supplies them gives that.
-/

namespace HttpFetch

/-- What was collected piece by piece, the failure that ended it, if one did, and what is left. -/
structure Collected (σ : Type) where
  pieces : List Bytes
  failure : Option Failure
  left : σ

namespace Collected

def cons {σ : Type} (octets : Bytes) (rest : Collected σ) : Collected σ :=
  { rest with pieces := octets :: rest.pieces }

/-- The same octets and the same failure, and a reader that supplies the rest of the wire. -/
structure Agrees (collected : Collected Reader) (decoded : Collected Wire) : Prop where
  octets_eq : collected.pieces.flatten = decoded.pieces.flatten
  failure_eq : collected.failure = decoded.failure
  supplies : collected.left.Supplies decoded.left.rest

end Collected

namespace Reader

theorem Supplies.read
    {reader : Reader} {octets : Bytes} (h : reader.Supplies octets) {size : Int}
    (hsize : 0 < size) :
    ∃ got rest reader', Reader.read size reader = .ok got reader' ∧
      got ++ rest = octets ∧ (got.length : Int) ≤ size ∧ reader'.Supplies rest ∧
      (got = [] → octets = []) := by
  obtain ⟨got, rest, reader', hread, hoctets, hle, hrest, hend⟩ := h.readSome size.toNat
  refine ⟨got, rest, reader', ?_, hoctets, by omega, hrest, hend (by omega)⟩
  unfold Reader.read
  rw [if_neg (by omega), hread]

end Reader

namespace Response

/-- The pieces that a cursor leads to, up to the end of the body. -/
def collect (cursor : Cursor) (reader : Reader) : Collected Reader :=
  match _h : piece cursor reader with
  | .ok (some octets, cursor) reader => (collect cursor reader).cons octets
  | .ok (none, _) reader => ⟨[], none, reader⟩
  | .error failure reader => ⟨[], some failure, reader⟩
termination_by reader.unread
decreasing_by exact piece_unread (by assumption)

theorem collect_eq (cursor : Cursor) (reader : Reader) :
    collect cursor reader =
      match piece cursor reader with
      | .ok (some octets, cursor) reader => (collect cursor reader).cons octets
      | .ok (none, _) reader => ⟨[], none, reader⟩
      | .error failure reader => ⟨[], some failure, reader⟩ := by
  rw [collect]
  split
  next h => rw [h]
  next h => rw [h]
  next h => rw [h]

/-! ## Bodies of a known length -/

theorem piece_counted
    {size remaining : Int} (hsize : 1 ≤ size) (hremaining : 0 < remaining)
    {reader : Reader} {octets : Bytes} (h : reader.Supplies octets) :
    (octets = [] ∧ ∃ reader', piece (.counted size remaining) reader =
        .error (.body (.cutBody remaining.toNat)) reader' ∧ reader'.Supplies []) ∨
      ∃ got rest reader', piece (.counted size remaining) reader =
          .ok (some got, .counted size (remaining - got.length)) reader' ∧
        got ≠ [] ∧ got ++ rest = octets ∧ (got.length : Int) ≤ remaining ∧
        reader'.Supplies rest := by
  have hmin : 0 < min size remaining := by omega
  obtain ⟨got, rest, reader', hread, hoctets, hle, hrest, hend⟩ := h.read hmin
  simp only [piece, if_neg (show ¬ remaining ≤ 0 by omega), hread]
  cases got with
  | nil =>
      left
      have hnone := hend rfl
      have hrest' : rest = [] := by simpa [hnone] using hoctets
      exact ⟨hnone, reader', rfl, hrest' ▸ hrest⟩
  | cons b got =>
      right
      exact ⟨b :: got, rest, reader', rfl, by simp, hoctets, by omega, hrest⟩

/-- A body of a known length is so many of the octets that arrive, or the failure tells how many
are missing. -/
theorem collect_counted
    {size remaining : Int} (hsize : 1 ≤ size) (hremaining : 0 ≤ remaining)
    {reader : Reader} {octets : Bytes} (h : reader.Supplies octets) :
    (collect (.counted size remaining) reader).pieces.flatten = octets.take remaining.toNat ∧
      (collect (.counted size remaining) reader).failure =
        (if remaining.toNat ≤ octets.length then none
          else some (.body (.cutBody (remaining.toNat - octets.length)))) ∧
      (collect (.counted size remaining) reader).left.Supplies (octets.drop remaining.toNat) := by
  -- By what is still to arrive: a piece takes something of it, or nothing is left.
  induction hlength : octets.length using Nat.strong_induction_on
    generalizing remaining reader octets with
  | _ length ih =>
      subst hlength
      by_cases hzero : remaining = 0
      · subst hzero
        rw [collect_eq]
        simpa [piece] using h
      · rcases piece_counted hsize (show 0 < remaining by omega) h with
          ⟨rfl, reader', hpiece, hrest⟩ | ⟨got, rest, reader', hpiece, hgot, rfl, hle, hrest⟩
        · rw [collect_eq, hpiece]
          refine ⟨by simp, ?_, by simpa using hrest⟩
          rw [if_neg (by simp only [List.length_nil]; omega)]
          rfl
        · have hpos := List.length_pos_iff.mpr hgot
          have hcount : remaining.toNat = got.length + (remaining - got.length).toNat := by omega
          obtain ⟨hflatten, hfailure, hleft⟩ :=
            ih rest.length (by simp only [List.length_append]; omega)
              (by omega : 0 ≤ remaining - got.length) hrest rfl
          rw [collect_eq, hpiece]
          refine ⟨?_, ?_, ?_⟩
          · simp only [Collected.cons, List.flatten_cons, hflatten]
            rw [hcount, List.take_length_add_append]
          · simp only [Collected.cons, hfailure, List.length_append]
            by_cases hcovered : (remaining - got.length).toNat ≤ rest.length
            · rw [if_pos hcovered, if_pos (by omega)]
            · rw [if_neg hcovered, if_neg (by omega)]
              congr 3
              omega
          · simp only [Collected.cons]
            rw [hcount, List.drop_length_add_append]
            exact hleft

/-- A body of a known length within a message is collected while the message arrives. -/
theorem collect_counted_of_receives
    {past : List SocketEvent} {message more : Bytes} {size remaining : Int} (hsize : 1 ≤ size)
    (hremaining : 0 ≤ remaining) {reader : Reader} {ahead : Bytes}
    (h : reader.Receives past message more ahead)
    (hmessage : remaining.toNat + more.length ≤ ahead.length) :
    (collect (.counted size remaining) reader).pieces.flatten = ahead.take remaining.toNat ∧
      (collect (.counted size remaining) reader).failure = none ∧
      (collect (.counted size remaining) reader).left.Receives past message more
        (ahead.drop remaining.toNat) := by
  induction hcount : remaining.toNat using Nat.strong_induction_on
    generalizing remaining reader ahead with
  | _ count ih =>
      subst hcount
      by_cases hzero : remaining = 0
      · subst hzero
        rw [collect_eq]
        simpa [piece] using h
      · obtain ⟨got, ahead', reader', hread, hgot, rfl, hle, hrest⟩ :=
          h.readSome (show 0 < (min size remaining).toNat by omega) (by omega)
        have hpiece : piece (.counted size remaining) reader =
            .ok (some got, .counted size (remaining - got.length)) reader' := by
          simp only [piece, if_neg (show ¬ remaining ≤ 0 by omega), Reader.read,
            if_neg (show ¬ min size remaining < 0 by omega), hread]
        have hpos := List.length_pos_iff.mpr hgot
        rw [List.length_append] at hmessage
        have hsplit : remaining.toNat = got.length + (remaining - got.length).toNat := by omega
        obtain ⟨hflatten, hfailure, hleft⟩ := ih (remaining - got.length).toNat (by omega)
          (show 0 ≤ remaining - got.length by omega) hrest (by omega) rfl
        rw [collect_eq, hpiece]
        refine ⟨?_, hfailure, ?_⟩
        · simp only [Collected.cons, List.flatten_cons, hflatten]
          rw [hsplit, List.take_length_add_append]
        · rw [hsplit, List.drop_length_add_append]
          exact hleft

/-! ## Bodies up to the end of the data -/

theorem collect_rest
    {size : Int} (hsize : 1 ≤ size) {reader : Reader} {octets : Bytes}
    (h : reader.Supplies octets) :
    (collect (.rest size) reader).pieces.flatten = octets ∧
      (collect (.rest size) reader).failure = none ∧
      (collect (.rest size) reader).left.Supplies [] := by
  induction hlength : octets.length using Nat.strong_induction_on
    generalizing reader octets with
  | _ length ih =>
      subst hlength
      obtain ⟨got, rest, reader', hread, rfl, -, hrest, hend⟩ :=
        h.read (show 0 < size by omega)
      cases got with
      | nil =>
          have hnone : rest = [] := hend rfl
          subst hnone
          have hpiece : piece (.rest size) reader = .ok (none, .finished) reader' := by
            simp only [piece, hread]
          rw [collect_eq, hpiece]
          exact ⟨rfl, rfl, hrest⟩
      | cons b got =>
          have hpiece : piece (.rest size) reader =
              .ok (some (b :: got), .rest size) reader' := by
            simp only [piece, hread]
          obtain ⟨hflatten, hfailure, hleft⟩ :=
            ih rest.length (by simp only [List.length_append, List.length_cons]; omega) hrest rfl
          rw [collect_eq, hpiece]
          refine ⟨?_, hfailure, hleft⟩
          simp only [Collected.cons, List.flatten_cons, hflatten]

end Response

/-! ## Chunked bodies -/

namespace Chunked

/-- All blocks on a wire. -/
def decodeAll (insideLine : Bool) (wire : Wire) : Collected Wire :=
  match _h : decodeChunk insideLine wire with
  | .ok (some octets) wire => (decodeAll true wire).cons octets
  | .ok none wire => ⟨[], none, wire⟩
  | .error failure wire => ⟨[], some failure, wire⟩
termination_by wire.rest.length
decreasing_by exact decodeChunk_length (by assumption)

theorem decodeAll_eq (insideLine : Bool) (wire : Wire) :
    decodeAll insideLine wire =
      match decodeChunk insideLine wire with
      | .ok (some octets) wire => (decodeAll true wire).cons octets
      | .ok none wire => ⟨[], none, wire⟩
      | .error failure wire => ⟨[], some failure, wire⟩ := by
  rw [decodeAll]
  split
  next h => rw [h]
  next h => rw [h]
  next h => rw [h]

theorem decodeAll_keepsLines (insideLine : Bool) (wire : Wire) :
    wire.lines <+: (decodeAll insideLine wire).left.lines := by
  fun_induction decodeAll insideLine wire with
  | case1 insideLine wire octets after h ih =>
      have hkeeps := (nextChunk_refines insideLine).keepsLines wire
      rw [h] at hkeeps
      exact hkeeps.trans ih
  | case2 insideLine wire after h =>
      have hkeeps := (nextChunk_refines insideLine).keepsLines wire
      rwa [h] at hkeeps
  | case3 insideLine wire failure after h =>
      have hkeeps := (nextChunk_refines insideLine).keepsLines wire
      rwa [h] at hkeeps

/-- A wire is no longer after its body, if the body is sound. -/
theorem decodeAll_length (insideLine : Bool) (wire : Wire)
    (hsound : (decodeAll insideLine wire).failure = none) :
    (decodeAll insideLine wire).left.rest.length ≤ wire.rest.length := by
  fun_induction decodeAll insideLine wire with
  | case1 insideLine wire octets after h ih =>
      exact (ih hsound).trans ((nextChunk_prompt insideLine).shortens h)
  | case2 insideLine wire after h => exact (nextChunk_prompt insideLine).shortens h
  | case3 insideLine wire failure after h => cases hsound

theorem collect_chunks
    {insideLine : Bool} {reader : Reader} {wire : Wire} (hsupplies : reader.Supplies wire.rest)
    (hlimit : (decodeAll insideLine wire).left.WithinLimit) :
    (Response.collect (.chunks insideLine) reader).pieces = (decodeAll insideLine wire).pieces ∧
      (Response.collect (.chunks insideLine) reader).failure =
        (decodeAll insideLine wire).failure ∧
      (Response.collect (.chunks insideLine) reader).left.Supplies
        (decodeAll insideLine wire).left.rest := by
  fun_induction decodeAll insideLine wire generalizing reader with
  | case1 insideLine wire octets after hdecode ih =>
      have hkeeps := hlimit.of_prefix (decodeAll_keepsLines true after)
      have hagrees := (nextChunk_refines insideLine).agrees reader wire hsupplies
      rw [hdecode] at hagrees
      obtain ⟨reader', hnext, hrest⟩ := (hagrees hkeeps).of_ok
      obtain ⟨hpieces, hfailure, hleft⟩ := ih hrest hlimit
      have hpiece : Response.piece (.chunks insideLine) reader =
          .ok (some octets, .chunks true) reader' := by
        simp only [Response.piece, hnext]
      rw [Response.collect_eq, hpiece]
      refine ⟨?_, hfailure, hleft⟩
      simp only [Collected.cons, hpieces]
  | case2 insideLine wire after hdecode =>
      have hagrees := (nextChunk_refines insideLine).agrees reader wire hsupplies
      rw [hdecode] at hagrees
      obtain ⟨reader', hnext, hrest⟩ := (hagrees hlimit).of_ok
      have hpiece : Response.piece (.chunks insideLine) reader =
          .ok (none, .finished) reader' := by
        simp only [Response.piece, hnext]
      rw [Response.collect_eq, hpiece]
      exact ⟨rfl, rfl, hrest⟩
  | case3 insideLine wire failure after hdecode =>
      have hagrees := (nextChunk_refines insideLine).agrees reader wire hsupplies
      rw [hdecode] at hagrees
      obtain ⟨reader', hnext, hrest⟩ := (hagrees hlimit).of_error
      have hpiece : Response.piece (.chunks insideLine) reader = .error failure reader' := by
        simp only [Response.piece, hnext]
      rw [Response.collect_eq, hpiece]
      exact ⟨rfl, rfl, hrest⟩

/-- A chunked body within a message is collected while the message arrives. -/
theorem collect_chunks_of_receives
    {past : List SocketEvent} {message more : Bytes} {insideLine : Bool} {reader : Reader}
    {wire : Wire} (hreader : reader.Receives past message more wire.rest)
    (hsound : (decodeAll insideLine wire).failure = none)
    (hlines : (decodeAll insideLine wire).left.HasLines)
    (hmore : more.length ≤ (decodeAll insideLine wire).left.rest.length) :
    (Response.collect (.chunks insideLine) reader).pieces = (decodeAll insideLine wire).pieces ∧
      (Response.collect (.chunks insideLine) reader).failure = none ∧
      (Response.collect (.chunks insideLine) reader).left.Receives past message more
        (decodeAll insideLine wire).left.rest := by
  fun_induction decodeAll insideLine wire generalizing reader with
  | case1 insideLine wire octets after hdecode ih =>
      have hkeeps := hlines.of_prefix (decodeAll_keepsLines true after)
      have hshorter := hmore.trans (decodeAll_length true after hsound)
      obtain ⟨reader', hnext, hrest⟩ :=
        (nextChunk_prompt insideLine).receives hreader hdecode hkeeps hshorter
      obtain ⟨hpieces, hfailure, hleft⟩ := ih hrest hsound hlines hmore
      have hpiece : Response.piece (.chunks insideLine) reader =
          .ok (some octets, .chunks true) reader' := by
        simp only [Response.piece, hnext]
      rw [Response.collect_eq, hpiece]
      refine ⟨?_, hfailure, hleft⟩
      simp only [Collected.cons, hpieces]
  | case2 insideLine wire after hdecode =>
      obtain ⟨reader', hnext, hrest⟩ :=
        (nextChunk_prompt insideLine).receives hreader hdecode hlines hmore
      have hpiece : Response.piece (.chunks insideLine) reader =
          .ok (none, .finished) reader' := by
        simp only [Response.piece, hnext]
      rw [Response.collect_eq, hpiece]
      exact ⟨rfl, rfl, hrest⟩
  | case3 insideLine wire failure after hdecode => cases hsound

/-- What a wire lacks is no fault, so nothing replaces it among the pieces of a body. -/
theorem decodeChunk_failure
    {insideLine : Bool} {wire wire' : Wire} {failure : Failure}
    (h : decodeChunk insideLine wire = .error failure wire') : failure.amongPieces = failure := by
  have hnext : ∀ wire, decodeNext wire = .error failure wire' →
      failure.amongPieces = failure := by
    intro wire h
    rw [decodeNext_eq] at h
    unfold lineSize decodeAnnounced Failure.ofMissing at h
    grind [Failure.amongPieces]
  cases insideLine with
  | false => exact hnext wire h
  | true => exact hnext wire.skipLine (decodeChunk_true wire ▸ h)

theorem decodeAll_failure (insideLine : Bool) (wire : Wire) :
    (decodeAll insideLine wire).failure.map Failure.amongPieces =
      (decodeAll insideLine wire).failure := by
  fun_induction decodeAll insideLine wire with
  | case1 insideLine wire octets after h ih => exact ih
  | case2 insideLine wire after h => rfl
  | case3 insideLine wire failure after h => exact congrArg some (decodeChunk_failure h)

end Chunked

/-! ## All framings -/

namespace Framing

/-- The body on a wire. -/
def decode (framing : Framing) (wire : Wire) : Collected Wire :=
  match framing with
  | none => ⟨[], .none, wire⟩
  | chunked => Chunked.decodeAll false wire
  | length octets =>
    ⟨[wire.rest.take octets],
      if octets ≤ wire.rest.length then .none
      else some (.body (.cutBody (octets - wire.rest.length))),
      { wire with rest := wire.rest.drop octets }⟩
  | badLength written defect => ⟨[], some (.value (.integer written defect)), wire⟩
  | untilEnd => ⟨[wire.rest], .none, { wire with rest := [] }⟩

theorem decode_keepsLines (framing : Framing) (wire : Wire) :
    wire.lines <+: (framing.decode wire).left.lines := by
  cases framing with
  | chunked => exact Chunked.decodeAll_keepsLines false wire
  | none | length | badLength | untilEnd => exact List.prefix_refl _

theorem decode_failure (framing : Framing) (wire : Wire) :
    (framing.decode wire).failure.map Failure.amongPieces = (framing.decode wire).failure := by
  cases framing with
  | none | badLength | untilEnd => rfl
  | chunked => exact Chunked.decodeAll_failure false wire
  | length octets =>
      unfold decode
      simp only
      split <;> rfl

/-- Collecting a body over any connection that supplies the octets of a wire is decoding it. -/
theorem collect_agrees
    {framing : Framing} {size : Int} (hsize : 1 ≤ size) {cursor : Cursor}
    (hcursor : Response.Framing.cursor size framing = .ok cursor) {reader : Reader} {wire : Wire}
    (hsupplies : reader.Supplies wire.rest) (hlimit : (framing.decode wire).left.WithinLimit) :
    (Response.collect cursor reader).Agrees (framing.decode wire) := by
  cases framing with
  | none =>
      cases hcursor
      obtain ⟨hflatten, hfailure, hleft⟩ :=
        Response.collect_counted hsize (le_refl 0) hsupplies
      refine ⟨?_, hfailure, hleft⟩
      rw [hflatten]
      rfl
  | chunked =>
      cases hcursor
      obtain ⟨hpieces, hfailure, hleft⟩ := Chunked.collect_chunks hsupplies hlimit
      exact ⟨congrArg List.flatten hpieces, hfailure, hleft⟩
  | length octets =>
      cases hcursor
      obtain ⟨hflatten, hfailure, hleft⟩ :=
        Response.collect_counted hsize (Int.natCast_nonneg octets) hsupplies
      rw [Int.toNat_natCast] at hflatten hfailure hleft
      exact ⟨by simpa [decode] using hflatten, hfailure, hleft⟩
  | badLength written defect => cases hcursor
  | untilEnd =>
      cases hcursor
      obtain ⟨hflatten, hfailure, hleft⟩ := Response.collect_rest hsize hsupplies
      exact ⟨by simpa [decode] using hflatten, hfailure, hleft⟩

end Framing

/-! ## The whole body of a response -/

/-- Whether a cursor is inside a body, neither before its start nor after its end. -/
def Cursor.isBegun : Cursor → Bool
  | .counted .. | .chunks _ | .rest _ => true
  | .start _ | .finished => false

namespace Response

theorem piece_isBegun
    {cursor cursor' : Cursor} {reader reader' : Reader} {octets : Bytes}
    (h : piece cursor reader = .ok (some octets, cursor') reader') : cursor'.isBegun = true := by
  cases cursor with
  | counted size remaining =>
      simp only [piece] at h
      split at h
      next => cases h
      next =>
        split at h
        next => cases h
        next =>
          cases h
          rfl
        next => cases h
  | chunks insideLine =>
      simp only [piece] at h
      split at h
      next =>
        cases h
        rfl
      next => cases h
      next => cases h
  | rest size =>
      simp only [piece] at h
      split at h
      next => cases h
      next =>
        cases h
        rfl
      next => cases h
  | start | finished => cases h

theorem advance_of_isBegun {cursor : Cursor} (hbegun : cursor.isBegun = true) :
    advance cursor = resume cursor := by
  cases cursor with
  | counted | chunks | rest => rfl
  | start | finished => cases hbegun

theorem drainFrom_eq (cursor : Cursor) (response : Response) :
    drainFrom cursor response =
      match advance cursor response with
      | .ok (some octets, cursor) response =>
        { drainFrom cursor response with
          pieces := octets :: (drainFrom cursor response).pieces }
      | .ok (none, _) response => ⟨[], none, response⟩
      | .error failure response => ⟨[], some failure, response⟩ := by
  rw [drainFrom]
  split
  next h => rw [h]
  next h => rw [h]
  next h => rw [h]

/-- A body that has begun is what its cursor collects; at its end the connection is closed. -/
theorem drainFrom_of_isBegun
    {cursor : Cursor} (hbegun : cursor.isBegun = true) (response : Response) :
    drainFrom cursor response =
      ⟨(collect cursor response.reader).pieces,
        (collect cursor response.reader).failure.map Failure.amongPieces,
        (response.withReader (collect cursor response.reader).left).close⟩ := by
  generalize hreader : response.reader = reader
  fun_induction collect cursor reader generalizing response with
  | case1 cursor reader octets cursor' reader' hpiece ih =>
      have hrest := ih (piece_isBegun hpiece) (response.withReader reader') rfl
      rw [drainFrom_eq, advance_of_isBegun hbegun, resume, hreader, hpiece]
      simp only [hrest]
      rfl
  | case2 cursor reader cursor' reader' hpiece =>
      rw [drainFrom_eq, advance_of_isBegun hbegun, resume, hreader, hpiece]
      rfl
  | case3 cursor reader failure reader' hpiece =>
      rw [drainFrom_eq, advance_of_isBegun hbegun, resume, hreader, hpiece]
      rfl

end Response

end HttpFetch
