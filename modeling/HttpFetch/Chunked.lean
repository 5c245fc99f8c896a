import HttpFetch.Stream.Reader

/-!
# Chunked coding

A writer beside a reader. Written, a block is its length in hexadecimal, its octets and two line
ends; an empty block is not written, because a length of zero ends the body. Read, a size line may
carry an extension after a semicolon, what follows a block up to the end of its line is dropped,
and the body ends after the first blank line of the trailer.
-/

namespace HttpFetch.Chunked

/-- The end of a line. -/
def lineEnd : Bytes := [13, 10]

/-- A block as it is written. -/
def block (octets : Bytes) : Bytes :=
  Utf8.encode (Text.ofNatBase 16 octets.length) ++ lineEnd ++ octets ++ lineEnd

/-- What ends a body. -/
def terminator : Bytes := Utf8.encode ['0'] ++ lineEnd ++ lineEnd

/-- Writes a block, unless it is empty. -/
def write (octets : Bytes) : Step Transport Unit :=
  if octets.isEmpty then pure () else Transport.write (block octets)

/-- Writes the end of the body. -/
def finish : Step Transport Unit := Transport.write terminator

/-- The longest line that is read as one. -/
def lineLimit : Int := 65536

/-- The number on a size line, before its extension. -/
def size? (line : Text) : Option Int := Integer.parseHex? (Text.cut ';' line).1

/-- Reads up to the first blank line. -/
def skipTrailer (reader : Reader) : EStateM.Result Failure Reader Unit :=
  match _h : reader.readLine lineLimit with
  | .ok line reader =>
    if _blank : line.all Bytes.isBlank then .ok () reader else skipTrailer reader
  | .error failure reader => .error failure reader
termination_by reader.unread
decreasing_by
  have h := Reader.readLine_unread _h
  have : line ≠ [] := by rintro rfl; simp at _blank
  have := List.length_pos_iff.mpr this
  omega

/-- The next block, or nothing at the end of the body. -/
def next : Step Reader (Option Bytes) := fun reader =>
  match reader.readLine lineLimit with
  | .error failure reader => .error failure reader
  | .ok line reader =>
    let written := (Latin.decode line).trim
    if written.isEmpty then .error (.body .cutChunks) reader
    else
      match size? written with
      | none => .error (.body (.chunkSize written)) reader
      | some size =>
        if size = 0 then
          match skipTrailer reader with
          | .ok () reader => .ok none reader
          | .error failure reader => .error failure reader
        else
          match reader.readExact size with
          | .ok octets reader => .ok (some octets) reader
          | .error failure reader => .error failure reader

theorem next_unread {reader reader' : Reader} {octets : Bytes}
    (h : next reader = .ok (some octets) reader') : reader'.unread < reader.unread := by
  unfold next at h
  split at h
  · cases h
  · rename_i line r hl
    have hline := Reader.readLine_unread hl
    simp only at h
    split at h
    · cases h
    · rename_i hw
      have hne : line ≠ [] := by
        rintro rfl
        exact hw (by decide)
      have := List.length_pos_iff.mpr hne
      split at h
      · cases h
      · split at h
        · split at h <;> cases h
        · split at h
          · rename_i hb
            have := Reader.readExact_unread hb
            injection h with _ h2
            subst h2
            omega
          · cases h

end HttpFetch.Chunked
