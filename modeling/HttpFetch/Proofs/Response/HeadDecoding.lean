import HttpFetch.Response.Head
import HttpFetch.Proofs.Stream.Wire

/-!
# Heads decoded at once

The head of a response as a function of the octets that arrive.  `ResponseHead.read_refines` says
that reading a head over any connection that supplies them is decoding it, and
`ResponseHead.read_prompt` that nothing after the head is waited for.
-/

namespace HttpFetch

namespace ResponseHead

/-- The fields on a wire up to the blank line. -/
def decodeFields : Nat → Headers → Step Wire Headers
  | 0, _ => throw (.head .tooManyLines)
  | lines + 1, reversed => do
    let line := lineText (← Wire.line)
    if line.isEmpty then pure reversed.reverse else decodeFields lines (addLine reversed line)

theorem decodeFields_succ (lines : Nat) (reversed : Headers) (wire : Wire) :
    decodeFields (lines + 1) reversed wire =
      if lineText (Bytes.firstLine wire.rest) = [] then .ok reversed.reverse wire.skipLine
      else decodeFields lines (addLine reversed (lineText (Bytes.firstLine wire.rest)))
        wire.skipLine := by
  simp only [decodeFields, bind, EStateM.bind, Wire.line, List.isEmpty_iff]
  split <;> rfl

/-- The head that begins with a status line; its fields are still on the wire. -/
def decodeAfter (line : Text) : Step Wire ResponseHead :=
  match StatusLine.ofLine? line with
  | none => throw (.head (.statusLine line))
  | some ⟨version, code, reason⟩ => do
    let headers ← decodeFields maxLines []
    match Integer.parse code with
    | .ok status => pure ⟨status, reason, version, headers⟩
    | .error defect => throw (.value (.integer code defect))

/-- The head at the front of a wire. -/
def decode : Step Wire ResponseHead := do
  let octets ← Wire.line
  if octets.isEmpty then throw (.head .empty) else decodeAfter (lineText octets)

theorem decode_eq (wire : Wire) :
    decode wire =
      if wire.rest = [] then .error (.head .empty) wire.skipLine
      else decodeAfter (lineText (Bytes.firstLine wire.rest)) wire.skipLine := by
  simp only [decode, bind, EStateM.bind, Wire.line, List.isEmpty_iff, Bytes.firstLine_eq_nil]
  split <;> rfl

theorem readFields_prompt (lines : Nat) (reversed : Headers) :
    Prompt (readFields lines reversed) (decodeFields lines reversed) := by
  induction lines generalizing reversed with
  | zero => exact Prompt.throw _
  | succ lines ih =>
      apply Prompt.bind Prompt.line
      intro octets
      exact Prompt.ite (Prompt.pure _) (ih _)

theorem read_prompt : Prompt read decode := by
  rw [read_eq]
  apply Prompt.bind Prompt.line
  intro octets
  refine Prompt.ite (Prompt.throw _) ?_
  unfold readAfter decodeAfter
  cases StatusLine.ofLine? (lineText octets) with
  | none => exact Prompt.throw _
  | some status =>
      apply Prompt.bind (readFields_prompt maxLines [])
      intro headers
      cases Integer.parse status.code with
      | ok number => exact Prompt.pure _
      | error defect => exact Prompt.throw _

theorem read_refines : Refines read decode := read_prompt.toRefines

end ResponseHead

end HttpFetch
