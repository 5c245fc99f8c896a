import HttpFetch.Response.Body
import HttpFetch.Proofs.Stream.Wire

/-!
# Chunked bodies decoded at once

One block of a chunked body as a function of the octets that arrive: a line tells a size, and the
size announces a block or the end of the body.  `Chunked.nextChunk_refines` says that reading a
block over any connection that supplies the octets is decoding it, and `Chunked.nextChunk_prompt`
that nothing after the block is waited for.
-/

namespace HttpFetch

namespace Chunked

/-- The wire after its first blank line. -/
def dropTrailer (wire : Wire) : Wire :=
  if _blank : (Bytes.firstLine wire.rest).all Bytes.isBlank then wire.skipLine
  else dropTrailer wire.skipLine
termination_by wire.rest.length
decreasing_by
  have hline : Bytes.firstLine wire.rest ≠ [] := by
    intro h
    simp [h] at _blank
  exact wire.length_skipLine hline

/-- The size that a line tells, or why it tells none. -/
def lineSize (line : Bytes) : Except Failure Int :=
  let written := (Latin.decode line).trim
  if written.isEmpty then .error (.body .cutChunks)
  else
    match size? written with
    | none => .error (.body (.chunkSize written))
    | some size => .ok size

/-- What a size announces: a block, or the end of the body. -/
def decodeAnnounced (size : Int) : Step Wire (Option Bytes) := fun wire =>
  if size = 0 then .ok none (dropTrailer wire)
  else if size.toNat ≤ wire.rest.length then
    .ok (some (wire.rest.take size.toNat)) { wire with rest := wire.rest.drop size.toNat }
  else .error (.ofMissing (size.toNat - wire.rest.length)) { wire with rest := [] }

/-- The next block on a wire, or nothing at the end of the body. -/
def decodeNext : Step Wire (Option Bytes) := do
  match lineSize (← Wire.line) with
  | .error failure => throw failure
  | .ok size => decodeAnnounced size

/-- The next block, when the line of the one before may have to be ended first. -/
def decodeChunk (insideLine : Bool) : Step Wire (Option Bytes) :=
  if insideLine then do
    let _ ← Wire.line
    decodeNext
  else decodeNext

theorem dropTrailer_keepsLines (wire : Wire) : wire.lines <+: (dropTrailer wire).lines := by
  fun_induction dropTrailer wire with
  | case1 wire hblank => exact List.prefix_append _ _
  | case2 wire hblank ih => exact (List.prefix_append _ _).trans ih

theorem skipTrailer_of_supplies
    {reader : Reader} {wire : Wire} (hsupplies : reader.Supplies wire.rest)
    (hlimit : (dropTrailer wire).WithinLimit) :
    ∃ reader', skipTrailer reader = .ok () reader' ∧
      reader'.Supplies (dropTrailer wire).rest := by
  fun_induction dropTrailer wire generalizing reader with
  | case1 wire hblank =>
      obtain ⟨reader', hread, hrest⟩ := Refines.readLine_of_within hsupplies hlimit
      refine ⟨reader', ?_, hrest⟩
      rw [skipTrailer, hread]
      simp only [dif_pos hblank]
  | case2 wire hblank ih =>
      have hline := hlimit.of_prefix (dropTrailer_keepsLines wire.skipLine)
      obtain ⟨reader', hread, hrest⟩ := Refines.readLine_of_within hsupplies hline
      obtain ⟨reader'', hskip, hend⟩ := ih hrest hlimit
      refine ⟨reader'', ?_, hend⟩
      rw [skipTrailer, hread]
      simpa only [dif_neg hblank] using hskip

def readAnnounced (size : Int) : Step Reader (Option Bytes) := fun reader =>
  if size = 0 then
    match skipTrailer reader with
    | .ok () reader => .ok none reader
    | .error failure reader => .error failure reader
  else
    match reader.readExact size with
    | .ok octets reader => .ok (some octets) reader
    | .error failure reader => .error failure reader

theorem dropTrailer_length (wire : Wire) :
    (dropTrailer wire).rest.length ≤ wire.rest.length := by
  fun_induction dropTrailer wire with
  | case1 wire hblank => exact wire.length_skipLine_le
  | case2 wire hblank ih => exact ih.trans wire.length_skipLine_le

theorem decodeAnnounced_length
    {size : Int} {wire wire' : Wire} {octets : Option Bytes}
    (h : decodeAnnounced size wire = .ok octets wire') :
    wire'.rest.length ≤ wire.rest.length := by
  unfold decodeAnnounced at h
  split at h
  next =>
    cases h
    exact dropTrailer_length wire
  next =>
    split at h
    next =>
      cases h
      simp only [List.length_drop]
      omega
    next => cases h

theorem skipTrailer_of_receives
    {past : List SocketEvent} {message more : Bytes} {reader : Reader} {wire : Wire}
    (hreader : reader.Receives past message more wire.rest)
    (hlines : (dropTrailer wire).HasLines) (hmore : more.length ≤ (dropTrailer wire).rest.length) :
    ∃ reader', skipTrailer reader = .ok () reader' ∧
      reader'.Receives past message more (dropTrailer wire).rest := by
  fun_induction dropTrailer wire generalizing reader with
  | case1 wire hblank =>
      obtain ⟨reader', hread, hrest⟩ := Prompt.line.receives hreader rfl hlines hmore
      refine ⟨reader', ?_, hrest⟩
      rw [skipTrailer, hread]
      simp only [dif_pos hblank]
  | case2 wire hblank ih =>
      have hline := hlines.of_prefix (dropTrailer_keepsLines wire.skipLine)
      obtain ⟨reader', hread, hrest⟩ := Prompt.line.receives hreader rfl hline
        (hmore.trans (dropTrailer_length wire.skipLine))
      obtain ⟨reader'', hskip, hend⟩ := ih hrest hlines hmore
      refine ⟨reader'', ?_, hend⟩
      rw [skipTrailer, hread]
      simpa only [dif_neg hblank] using hskip

theorem readAnnounced_block {reader : Reader} {octets : Bytes} (h : reader.Supplies octets)
    {size : Int} (hsize : size ≠ 0) :
    if size.toNat ≤ octets.length then
      ∃ after, readAnnounced size reader = .ok (some (octets.take size.toNat)) after ∧
        after.Supplies (octets.drop size.toNat)
    else ∃ after, readAnnounced size reader =
        .error (.ofMissing (size.toNat - octets.length)) after ∧ after.Supplies [] := by
  have hblock := h.readBlock size.toNat []
  unfold readAnnounced Reader.readExact
  rw [if_neg hsize]
  by_cases hcovered : size.toNat ≤ octets.length
  · rw [if_pos hcovered] at hblock ⊢
    obtain ⟨after, hread, hrest⟩ := hblock
    rw [hread]
    exact ⟨after, rfl, hrest⟩
  · rw [if_neg hcovered] at hblock ⊢
    obtain ⟨after, hread, hrest⟩ := hblock
    rw [hread]
    exact ⟨after, rfl, hrest⟩

theorem readAnnounced_refines (size : Int) :
    Refines (readAnnounced size) (decodeAnnounced size) := by
  constructor
  · intro wire
    unfold decodeAnnounced
    split
    next => exact dropTrailer_keepsLines wire
    next => split <;> exact List.prefix_refl _
  · intro reader wire hsupplies hlimit
    by_cases hzero : size = 0
    · rw [decodeAnnounced, if_pos hzero] at hlimit ⊢
      obtain ⟨reader', hskip, hrest⟩ := skipTrailer_of_supplies hsupplies hlimit
      rw [readAnnounced, if_pos hzero, hskip]
      exact ⟨rfl, hrest⟩
    · have hblock := readAnnounced_block hsupplies hzero
      rw [decodeAnnounced, if_neg hzero]
      split at hblock
      next hcovered =>
        obtain ⟨reader', hread, hrest⟩ := hblock
        rw [hread, if_pos hcovered]
        exact ⟨rfl, hrest⟩
      next hshort =>
        obtain ⟨reader', hread, hrest⟩ := hblock
        rw [hread, if_neg hshort]
        exact ⟨rfl, hrest⟩

theorem readAnnounced_prompt (size : Int) :
    Prompt (readAnnounced size) (decodeAnnounced size) where
  toRefines := readAnnounced_refines size
  shortens hdecode := decodeAnnounced_length hdecode
  receives {past message more reader wire octets after} hreader hdecode hlines hmore := by
    unfold readAnnounced
    unfold decodeAnnounced at hdecode
    split at hdecode
    next hzero =>
      cases hdecode
      obtain ⟨reader', hskip, hrest⟩ := skipTrailer_of_receives hreader hlines hmore
      rw [if_pos hzero, hskip]
      exact ⟨reader', rfl, hrest⟩
    next hsize =>
      split at hdecode
      next hcovered =>
        cases hdecode
        rw [List.length_drop] at hmore
        obtain ⟨reader', hread, hrest⟩ :=
          hreader.readBlock [] (show size.toNat + more.length ≤ wire.rest.length by omega)
        rw [if_neg hsize, Reader.readExact, hread]
        exact ⟨reader', rfl, hrest⟩
      next => cases hdecode

theorem next_eq_bind :
    next = (do
      match lineSize (← Reader.readLine lineLimit) with
      | .error failure => throw failure
      | .ok size => readAnnounced size) := by
  funext reader
  unfold next lineSize
  simp only [bind, EStateM.bind]
  cases Reader.readLine lineLimit reader with
  | error failure reader' => rfl
  | ok line reader' =>
      simp only
      split
      next => rfl
      next =>
        cases size? (Latin.decode line).trim with
        | none => rfl
        | some size => rfl

theorem next_prompt : Prompt next decodeNext := by
  rw [next_eq_bind]
  apply Prompt.bind Prompt.line
  intro line
  cases lineSize line with
  | error failure => exact Prompt.throw failure
  | ok size => exact readAnnounced_prompt size

theorem nextChunk_prompt (insideLine : Bool) :
    Prompt (Response.nextChunk insideLine) (decodeChunk insideLine) := by
  unfold decodeChunk
  cases insideLine with
  | false => exact next_prompt
  | true =>
      have hbind : Response.nextChunk true =
          ((do
            let _ ← Reader.readLine lineLimit
            next) : Step Reader (Option Bytes)) := by
        funext reader
        unfold Response.nextChunk
        simp only [bind, EStateM.bind, if_true]
        cases Reader.readLine lineLimit reader with
        | ok line after => rfl
        | error failure after => rfl
      rw [hbind]
      exact Prompt.bind Prompt.line fun _ => next_prompt

theorem nextChunk_refines (insideLine : Bool) :
    Refines (Response.nextChunk insideLine) (decodeChunk insideLine) :=
  (nextChunk_prompt insideLine).toRefines

theorem decodeNext_eq (wire : Wire) :
    decodeNext wire =
      match lineSize (Bytes.firstLine wire.rest) with
      | .error failure => .error failure wire.skipLine
      | .ok size => decodeAnnounced size wire.skipLine := by
  simp only [decodeNext, bind, EStateM.bind, Wire.line]
  cases lineSize (Bytes.firstLine wire.rest) with
  | error failure => rfl
  | ok size => rfl

theorem decodeChunk_true (wire : Wire) : decodeChunk true wire = decodeNext wire.skipLine := rfl

theorem decodeNext_length
    {wire wire' : Wire} {octets : Bytes} (h : decodeNext wire = .ok (some octets) wire') :
    wire'.rest.length < wire.rest.length := by
  rw [decodeNext_eq] at h
  split at h
  next => cases h
  next size hsize =>
    have hline : Bytes.firstLine wire.rest ≠ [] := by
      intro hnone
      rw [hnone] at hsize
      cases hsize
    have hskip := wire.length_skipLine hline
    have hannounced := decodeAnnounced_length h
    omega

theorem decodeChunk_length
    {insideLine : Bool} {wire wire' : Wire} {octets : Bytes}
    (h : decodeChunk insideLine wire = .ok (some octets) wire') :
    wire'.rest.length < wire.rest.length := by
  cases insideLine with
  | false => exact decodeNext_length h
  | true =>
      exact (decodeNext_length (decodeChunk_true wire ▸ h)).trans_le wire.length_skipLine_le

end Chunked

end HttpFetch
