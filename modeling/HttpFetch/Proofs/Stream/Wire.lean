import HttpFetch.Proofs.Stream.Supply
import HttpFetch.Proofs.Stream.Transfer
import HttpFetch.Proofs.Stream.Waiting

/-!
# Decoding a byte string at once

A wire is what a connection supplies, as one byte string: lines and blocks are taken off its front,
and the lines taken are kept.  A reader that supplies the octets of a wire and a wire behave alike
(`Refines`) as long as every line taken fits the limit of the reader.  A reader over which a message
is arriving behaves like a wire as well, and asks for nothing after the message (`Prompt`), as long
as the wire takes no more than the message.  Both relations are kept by sequencing, so that whole
decoders are related because their steps are.
-/

namespace HttpFetch

/-- The octets that are not decoded yet, and the lines taken so far. -/
structure Wire where
  rest : Bytes
  lines : List Bytes
  deriving DecidableEq, Repr

namespace Wire

def ofBytes (octets : Bytes) : Wire := ⟨octets, []⟩

def skipLine (wire : Wire) : Wire :=
  ⟨Bytes.afterLine wire.rest, wire.lines ++ [Bytes.firstLine wire.rest]⟩

theorem length_skipLine (wire : Wire) (h : Bytes.firstLine wire.rest ≠ []) :
    wire.skipLine.rest.length < wire.rest.length := by
  have hlength := Bytes.length_afterLine wire.rest
  have := List.length_pos_iff.mpr h
  simp only [skipLine]
  omega

theorem length_skipLine_le (wire : Wire) : wire.skipLine.rest.length ≤ wire.rest.length := by
  have hlength := Bytes.length_afterLine wire.rest
  simp only [skipLine]
  omega

def line : Step Wire Bytes := fun wire => .ok (Bytes.firstLine wire.rest) wire.skipLine

/-- Whether all lines taken are within the limit of readers. -/
def WithinLimit (wire : Wire) : Prop :=
  ∀ line ∈ wire.lines, (line.length : Int) ≤ Chunked.lineLimit

instance (wire : Wire) : Decidable wire.WithinLimit :=
  inferInstanceAs (Decidable (∀ line ∈ wire.lines, (line.length : Int) ≤ Chunked.lineLimit))

theorem WithinLimit.of_prefix {before after : Wire} (h : after.WithinLimit)
    (hlines : before.lines <+: after.lines) : before.WithinLimit :=
  fun line hline => h line (hlines.subset hline)

/-- Whether all lines taken have their line feed and are within the limit of readers. -/
def HasLines (wire : Wire) : Prop :=
  ∀ line ∈ wire.lines, (10 : UInt8) ∈ line ∧ (line.length : Int) ≤ Chunked.lineLimit

theorem HasLines.of_prefix {before after : Wire} (h : after.HasLines)
    (hlines : before.lines <+: after.lines) : before.HasLines :=
  fun line hline => h line (hlines.subset hline)

end Wire

variable {α β : Type}

/-- A result over a reader is that over a wire, and the reader supplies the rest of the wire. -/
def Agrees : EStateM.Result Failure Reader α → EStateM.Result Failure Wire α → Prop
  | .ok a reader, .ok b wire => a = b ∧ reader.Supplies wire.rest
  | .error failure reader, .error failure' wire => failure = failure' ∧ reader.Supplies wire.rest
  | _, _ => False

theorem Agrees.of_ok
    {result : EStateM.Result Failure Reader α} {a : α} {wire : Wire}
    (h : Agrees result (.ok a wire)) :
    ∃ reader, result = .ok a reader ∧ reader.Supplies wire.rest := by
  cases result with
  | ok b reader =>
      obtain ⟨rfl, hsupplies⟩ := h
      exact ⟨reader, rfl, hsupplies⟩
  | error failure reader => exact h.elim

theorem Agrees.of_error
    {result : EStateM.Result Failure Reader α} {failure : Failure} {wire : Wire}
    (h : Agrees result (.error failure wire)) :
    ∃ reader, result = .error failure reader ∧ reader.Supplies wire.rest := by
  cases result with
  | ok b reader => exact h.elim
  | error failure' reader =>
      obtain ⟨rfl, hsupplies⟩ := h
      exact ⟨reader, rfl, hsupplies⟩

/-- A step over readers decodes what a step over wires decodes. -/
structure Refines (read : Step Reader α) (decode : Step Wire α) : Prop where
  keepsLines : ∀ wire, wire.lines <+: (Step.left (decode wire)).lines
  agrees : ∀ reader wire, reader.Supplies wire.rest →
    (Step.left (decode wire)).WithinLimit → Agrees (read reader) (decode wire)

namespace Refines

theorem pure (a : α) : Refines (Pure.pure a) (Pure.pure a) where
  keepsLines _ := List.prefix_refl _
  agrees _ _ hsupplies _ := ⟨rfl, hsupplies⟩

theorem throw (failure : Failure) :
    Refines (MonadExcept.throw failure : Step Reader α) (MonadExcept.throw failure) where
  keepsLines _ := List.prefix_refl _
  agrees _ _ hsupplies _ := ⟨rfl, hsupplies⟩

theorem bind
    {read : Step Reader α} {decode : Step Wire α}
    {readNext : α → Step Reader β} {decodeNext : α → Step Wire β}
    (hfirst : Refines read decode) (hnext : ∀ a, Refines (readNext a) (decodeNext a)) :
    Refines (read >>= readNext) (decode >>= decodeNext) := by
  constructor
  · intro wire
    have hkeeps := hfirst.keepsLines wire
    show wire.lines <+: (Step.left (EStateM.bind decode decodeNext wire)).lines
    unfold EStateM.bind
    cases hdecode : decode wire with
    | ok a after =>
        rw [hdecode] at hkeeps
        exact hkeeps.trans ((hnext a).keepsLines after)
    | error failure after =>
        rwa [hdecode] at hkeeps
  · intro reader wire hsupplies
    have hagrees := hfirst.agrees reader wire hsupplies
    show (Step.left (EStateM.bind decode decodeNext wire)).WithinLimit →
      Agrees (EStateM.bind read readNext reader) (EStateM.bind decode decodeNext wire)
    unfold EStateM.bind
    cases hdecode : decode wire with
    | ok a after =>
        intro hlimit
        have hkeeps := (hnext a).keepsLines after
        rw [hdecode] at hagrees
        obtain ⟨reader', hread, hsupplies'⟩ := (hagrees (hlimit.of_prefix hkeeps)).of_ok
        rw [hread]
        exact (hnext a).agrees reader' after hsupplies' hlimit
    | error failure after =>
        intro hlimit
        rw [hdecode] at hagrees
        obtain ⟨reader', hread, hsupplies'⟩ := (hagrees hlimit).of_error
        rw [hread]
        exact ⟨rfl, hsupplies'⟩

theorem readLine_of_within
    {reader : Reader} {wire : Wire} (hsupplies : reader.Supplies wire.rest)
    (hlimit : wire.skipLine.WithinLimit) :
    ∃ reader', Reader.readLine Chunked.lineLimit reader =
        .ok (Bytes.firstLine wire.rest) reader' ∧
      reader'.Supplies wire.skipLine.rest :=
  hsupplies.readLine (hlimit _ (by simp [Wire.skipLine]))

theorem line : Refines (Reader.readLine Chunked.lineLimit) Wire.line := by
  constructor
  · intro wire
    exact List.prefix_append _ _
  · intro reader wire hsupplies hlimit
    obtain ⟨reader', hread, hrest⟩ := readLine_of_within hsupplies hlimit
    rw [hread]
    exact ⟨rfl, hrest⟩

end Refines

/-- A step over readers decodes what a step over wires decodes, and it asks for data only while a
part of a message is missing that the wire does not go beyond. -/
structure Prompt (read : Step Reader α) (decode : Step Wire α) : Prop extends
    Refines read decode where
  shortens : ∀ {wire a after}, decode wire = .ok a after → after.rest.length ≤ wire.rest.length
  receives : ∀ {past message more reader wire a after},
    reader.Receives past message more wire.rest → decode wire = .ok a after →
    after.HasLines → more.length ≤ after.rest.length →
    ∃ reader', read reader = .ok a reader' ∧ reader'.Receives past message more after.rest

namespace Prompt

theorem pure (a : α) : Prompt (Pure.pure a) (Pure.pure a) where
  toRefines := Refines.pure a
  shortens hdecode := by
    cases hdecode
    exact le_rfl
  receives hreader hdecode _ _ := by
    cases hdecode
    exact ⟨_, rfl, hreader⟩

theorem throw (failure : Failure) :
    Prompt (MonadExcept.throw failure : Step Reader α) (MonadExcept.throw failure) where
  toRefines := Refines.throw failure
  shortens hdecode := by cases hdecode
  receives _ hdecode := by cases hdecode

theorem bind
    {read : Step Reader α} {decode : Step Wire α}
    {readNext : α → Step Reader β} {decodeNext : α → Step Wire β}
    (hfirst : Prompt read decode) (hnext : ∀ a, Prompt (readNext a) (decodeNext a)) :
    Prompt (read >>= readNext) (decode >>= decodeNext) where
  toRefines := hfirst.toRefines.bind fun a => (hnext a).toRefines
  shortens {wire b after} hdecode := by
    change EStateM.bind decode decodeNext wire = .ok b after at hdecode
    unfold EStateM.bind at hdecode
    split at hdecode
    next a between hbetween =>
      exact ((hnext a).shortens hdecode).trans (hfirst.shortens hbetween)
    next => cases hdecode
  receives {past message more reader wire b after} hreader hdecode hlines hmore := by
    change EStateM.bind decode decodeNext wire = .ok b after at hdecode
    show ∃ reader', EStateM.bind read readNext reader = .ok b reader' ∧ _
    unfold EStateM.bind at hdecode ⊢
    split at hdecode
    next a between hbetween =>
      -- The first step stops before the second, so neither goes beyond the message.
      have hkeeps := (hnext a).keepsLines between
      rw [hdecode] at hkeeps
      obtain ⟨reader', hread, hreader'⟩ := hfirst.receives hreader hbetween
        (hlines.of_prefix hkeeps) (hmore.trans ((hnext a).shortens hdecode))
      rw [hread]
      exact (hnext a).receives hreader' hdecode hlines hmore
    next => cases hdecode

theorem ite {c : Prop} [Decidable c]
    {read read' : Step Reader α} {decode decode' : Step Wire α}
    (hthen : Prompt read decode) (helse : Prompt read' decode') :
    Prompt (if c then read else read') (if c then decode else decode') := by
  split
  · exact hthen
  · exact helse

theorem line : Prompt (Reader.readLine Chunked.lineLimit) Wire.line where
  toRefines := Refines.line
  shortens {wire line after} hdecode := by
    cases hdecode
    exact wire.length_skipLine_le
  receives {past message more reader wire line after} hreader hdecode hlines hmore := by
    cases hdecode
    obtain ⟨hfeed, hlimit⟩ := hlines (Bytes.firstLine wire.rest) (by simp [Wire.skipLine])
    have hline : (10 : UInt8) ∈ wire.rest := by
      rw [← Bytes.firstLine_append_afterLine wire.rest]
      exact List.mem_append_left _ hfeed
    exact hreader.readLine hline hlimit hmore

end Prompt

end HttpFetch
