import HttpFetch.Charset
import HttpFetch.Payload.Upload
import Mathlib.Tactic

/-!
# What a payload gives

Copying a payload asks its source for pieces until it gives none.  The pieces and the failure that
ends them depend on the payload alone, not on what is done with the pieces.  For every way to build
a payload they join to its data: octets in memory are cut, a list of pieces is cut and its empty
pieces are passed over, and what a reader gives is taken as it is.
-/

namespace HttpFetch

/-- The pieces that a payload gives, and the failure that ends them, if one does. -/
structure Contents where
  pieces : List Bytes
  failure : Option Failure
  deriving DecidableEq

namespace Payload

/-- What copying a payload gets from its source. -/
def contents (payload : Payload) : Contents :=
  match _h : payload.read uploadChunkSize with
  | .error failure _ => ⟨[], some failure⟩
  | .ok [] _ => ⟨[], none⟩
  | .ok (b :: octets) payload =>
    ⟨(b :: octets) :: (contents payload).pieces, (contents payload).failure⟩
termination_by payload.pending
decreasing_by
  all_goals
    have := read_pending _h
    simp only [List.length_cons] at this
    omega

theorem contents_of_error
    {payload payload' : Payload} {failure : Failure}
    (h : payload.read uploadChunkSize = .error failure payload') :
    payload.contents = ⟨[], some failure⟩ := by
  rw [contents]
  split
  next h' => cases h.symm.trans h'; rfl
  next h' => cases h.symm.trans h'
  next h' => cases h.symm.trans h'

theorem contents_of_end
    {payload payload' : Payload} (h : payload.read uploadChunkSize = .ok [] payload') :
    payload.contents = ⟨[], none⟩ := by
  rw [contents]
  split
  next h' => cases h.symm.trans h'
  next h' => rfl
  next h' => cases h.symm.trans h'

theorem contents_of_piece
    {payload payload' : Payload} {piece : Bytes} (hne : piece ≠ [])
    (h : payload.read uploadChunkSize = .ok piece payload') :
    payload.contents = ⟨piece :: payload'.contents.pieces, payload'.contents.failure⟩ := by
  rw [contents]
  split
  next h' => cases h.symm.trans h'
  next h' =>
    cases h.symm.trans h'
    exact absurd rfl hne
  next h' => cases h.symm.trans h'; rfl

theorem ne_nil_of_mem_contents (payload : Payload) :
    ∀ piece ∈ payload.contents.pieces, piece ≠ [] := by
  fun_induction contents payload with
  | case1 | case2 => exact fun piece hpiece => absurd hpiece List.not_mem_nil
  | case3 payload b octets payload' h ih =>
      rw [List.forall_mem_cons]
      exact ⟨List.cons_ne_nil b octets, ih⟩

theorem read_of_consumed (payload : Payload) (consumed : Bool) (size : Int) :
    Payload.read size { payload with consumed := consumed } =
      match payload.read size with
      | .ok octets payload => .ok octets { payload with consumed := consumed }
      | .error failure payload => .error failure { payload with consumed := consumed } := by
  obtain ⟨source, size', consumed'⟩ := payload
  unfold Payload.read
  cases source with
  | none =>
      simp only
      by_cases hindex : Source.isIndex size
      · rw [if_pos hindex, if_pos hindex]
      · rw [if_neg hindex, if_neg hindex]
  | some source => cases hread : source.read size <;> simp only [hread]

theorem contents_of_consumed (payload : Payload) (consumed : Bool) :
    Payload.contents { payload with consumed := consumed } = payload.contents := by
  fun_induction contents payload with
  | case1 payload failure payload' h =>
      apply contents_of_error
      rw [read_of_consumed, h]
  | case2 payload payload' h =>
      apply contents_of_end
      rw [read_of_consumed, h]
  | case3 payload b octets payload' h ih =>
      have hread := read_of_consumed payload consumed uploadChunkSize
      rw [h] at hread
      rw [contents_of_piece (List.cons_ne_nil b octets) hread, ih]

theorem contents_empty : empty.contents = ⟨[], none⟩ := contents_of_end rfl

/-! ## The data of a payload -/

/-- A payload gives its data without a failure, in pieces that memory can hold. -/
structure Gives (payload : Payload) (data : Bytes) : Prop where
  unfailing : payload.contents.failure = none
  flatten_eq : payload.contents.pieces.flatten = data
  length_lt : ∀ piece ∈ payload.contents.pieces, piece.length < 16 ^ 16

theorem Gives.cons
    {payload payload' : Payload} {piece data : Bytes} (hne : piece ≠ [])
    (h : payload.read uploadChunkSize = .ok piece payload') (hlength : piece.length < 16 ^ 16)
    (hrest : payload'.Gives data) : payload.Gives (piece ++ data) := by
  have hcontents := contents_of_piece hne h
  constructor
  · rw [hcontents]
    exact hrest.unfailing
  · rw [hcontents, List.flatten_cons, hrest.flatten_eq]
  · rw [hcontents, List.forall_mem_cons]
    exact ⟨hlength, hrest.length_lt⟩

theorem Gives.nil
    {payload payload' : Payload} (h : payload.read uploadChunkSize = .ok [] payload') :
    payload.Gives [] := by
  have hcontents := contents_of_end h
  constructor
  · rw [hcontents]
  · rw [hcontents]
    rfl
  · rw [hcontents]
    exact fun piece hpiece => absurd hpiece List.not_mem_nil

theorem gives_memory (octets : Bytes) (size : Option Int) (consumed : Bool) :
    Gives ⟨some (.memory octets), size, consumed⟩ octets := by
  induction hlength : octets.length using Nat.strong_induction_on generalizing octets with
  | _ length ih =>
      have hread : Payload.read uploadChunkSize ⟨some (.memory octets), size, consumed⟩ =
          .ok (octets.take uploadChunkSize)
            ⟨some (.memory (octets.drop uploadChunkSize)), size, consumed⟩ := rfl
      by_cases hnil : octets = []
      · subst hnil
        exact Gives.nil hread
      · have hpos := List.length_pos_iff.mpr hnil
        have hpiece : octets.take uploadChunkSize ≠ [] := by
          rw [ne_eq, List.take_eq_nil_iff, not_or]
          exact ⟨by decide, hnil⟩
        have hsmall : (octets.take uploadChunkSize).length < 16 ^ 16 := by
          rw [List.length_take, uploadChunkSize]
          omega
        have hrest := ih (octets.drop uploadChunkSize).length
          (by rw [List.length_drop, uploadChunkSize]; omega) _ rfl
        have hgives := Gives.cons hpiece hread hsmall hrest
        rwa [List.take_append_drop] at hgives

theorem readPieces_append (waiting : Bytes) (rest : List Bytes) :
    ∃ piece waiting' rest', Source.readPieces uploadChunkSize waiting rest =
        (piece, .pieces waiting' rest') ∧
      piece ++ (waiting' ++ rest'.flatten) = waiting ++ rest.flatten ∧
      piece.length < 16 ^ 16 ∧ (piece = [] → waiting ++ rest.flatten = []) := by
  fun_induction Source.readPieces uploadChunkSize waiting rest with
  | case1 => exact ⟨[], [], [], rfl, rfl, by simp, fun _ => rfl⟩
  | case2 piece rest ih => exact ih
  | case3 waiting rest hne =>
      have hwaiting : waiting ≠ [] := by
        rintro rfl
        cases rest with
        | nil => simp_all
        | cons piece rest => simp_all
      refine ⟨waiting.take uploadChunkSize, _, _, rfl, ?_, ?_, ?_⟩
      · exact (List.append_assoc ..).symm.trans (congrArg (· ++ _) (List.take_append_drop ..))
      · rw [List.length_take, uploadChunkSize]
        omega
      · intro hnil
        rw [List.take_eq_nil_iff] at hnil
        exact absurd hnil (not_or.mpr ⟨by decide, hwaiting⟩)

theorem gives_pieces (waiting : Bytes) (rest : List Bytes) (size : Option Int)
    (consumed : Bool) :
    Gives ⟨some (.pieces waiting rest), size, consumed⟩ (waiting ++ rest.flatten) := by
  induction hlength : (waiting ++ rest.flatten).length using Nat.strong_induction_on
    generalizing waiting rest with
  | _ length ih =>
      obtain ⟨piece, waiting', rest', hpieces, happend, hsmall, hend⟩ :=
        readPieces_append waiting rest
      have hread : Payload.read uploadChunkSize ⟨some (.pieces waiting rest), size, consumed⟩ =
          .ok piece ⟨some (.pieces waiting' rest'), size, consumed⟩ := by
        simp only [Payload.read, Source.read, hpieces]
      by_cases hnil : piece = []
      · rw [hend hnil]
        rw [hnil] at hread
        exact Gives.nil hread
      · have hpos := List.length_pos_iff.mpr hnil
        rw [← happend]
        apply Gives.cons hnil hread hsmall
        apply ih _ _ _ _ rfl
        have htotal := congrArg List.length happend
        rw [List.length_append] at htotal
        omega

theorem gives_reader
    {pieces : List Bytes} (hne : ∀ piece ∈ pieces, piece ≠ [])
    (hindex : ∀ piece ∈ pieces, Source.isIndex piece.length = true) (size : Option Int)
    (consumed : Bool) :
    Gives ⟨some (.script (pieces.map .data)), size, consumed⟩ pieces.flatten := by
  induction pieces with
  | nil => exact Gives.nil rfl
  | cons piece pieces ih =>
      rw [List.forall_mem_cons] at hne hindex
      have hread : Payload.read uploadChunkSize
          ⟨some (.script ((piece :: pieces).map .data)), size, consumed⟩ =
          .ok piece ⟨some (.script (pieces.map .data)), size, consumed⟩ := rfl
      have hsmall : piece.length < 16 ^ 16 := by
        have := hindex.1
        rw [Source.isIndex, Bool.and_eq_true, decide_eq_true_eq, decide_eq_true_eq] at this
        omega
      exact Gives.cons hne.1 hread hsmall (ih hne.2 hindex.2)

/-- The data of a payload, by the way in which the payload is built. What a reader gives at once
is in memory, so its length is a number that can count octets. -/
inductive Carries : Payload → Bytes → Prop
  | octets (data : Bytes) : Carries (ofBytes data) data
  | text (s : Text) : Carries (ofText s) (Utf8.encode s)
  | textIn {encoding s : Text} {charset : Charset} {data : Bytes} {payload : Payload}
      (hname : Charset.ofName encoding = .ok charset) (hcode : charset.encode? s = some data)
      (hpayload : ofTextIn encoding s = .ok payload) : Carries payload data
  | memory (data : Bytes) (size : Option Int) : Carries (ofSource (.memory data) size) data
  | reader {pieces : List Bytes} (hne : ∀ piece ∈ pieces, piece ≠ [])
      (hindex : ∀ piece ∈ pieces, Source.isIndex piece.length = true) (size : Option Int) :
      Carries (ofSource (.script (pieces.map .data)) size) pieces.flatten
  | pieces (pieces : List Bytes) (size : Option Int) :
      Carries (ofPieces pieces size) pieces.flatten

theorem Carries.gives {payload : Payload} {data : Bytes} (h : payload.Carries data) :
    payload.Gives data := by
  cases h with
  | octets => exact gives_memory _ _ _
  | text s => exact gives_memory _ _ _
  | textIn hname hcode hpayload =>
      simp only [ofTextIn, hname, hcode] at hpayload
      cases hpayload
      exact gives_memory _ _ _
  | memory _ size => exact gives_memory _ _ _
  | reader hne hindex size => exact gives_reader hne hindex _ _
  | pieces pieces size => exact gives_pieces [] pieces _ _

theorem Carries.fresh {payload : Payload} {data : Bytes} (h : payload.Carries data) :
    payload.consumed = false := by
  cases h with
  | octets | text | memory | reader | pieces => rfl
  | textIn hname hcode hpayload =>
      simp only [ofTextIn, hname, hcode] at hpayload
      cases hpayload
      rfl

end Payload

end HttpFetch
