import HttpFetch.Response.Body
import Mathlib.Tactic

/-!
# What reading keeps

A reader gets at its transport in one place, when it fills its buffer.  A property of readers that
filling keeps and that does not look into the buffer is therefore kept by everything that reads:
lines, blocks, heads and the pieces of bodies.  Such a property is an invariant of a connection
(`Reader.Invariant`), and each reading step is shown once to keep every invariant.  With it goes the
kind of failures that a step may end with, which has all failures other than faults in it.
-/

namespace HttpFetch

/-- Whether a failure is one of the request, and no fault that was thrown at it. -/
def Failure.isOwn : Failure → Bool
  | fault _ => false
  | _ => true

theorem Failure.isOwn_ofMissing (missing : Nat) : (ofMissing missing).isOwn = true := by
  unfold ofMissing
  split <;> rfl

/-- The state that a step leaves, failing or not. -/
def Step.left {σ α : Type} : EStateM.Result Failure σ α → σ
  | .ok _ state => state
  | .error _ state => state

@[simp] theorem Step.left_ok {σ α : Type} (a : α) (state : σ) :
    Step.left (.ok a state : EStateM.Result Failure σ α) = state := rfl

@[simp] theorem Step.left_error {σ α : Type} (failure : Failure) (state : σ) :
    Step.left (.error failure state : EStateM.Result Failure σ α) = state := rfl

namespace Step

variable {σ α β : Type} {inv : σ → Prop} {allowed : Failure → Prop}

/-- What the end of a step leaves has a property, and a failure is of a kind. -/
def Leaves (inv : σ → Prop) (allowed : Failure → Prop) : EStateM.Result Failure σ α → Prop
  | .ok _ state => inv state
  | .error failure state => inv state ∧ allowed failure

/-- A step that keeps a property and fails only with failures of a kind. -/
def Keeps (inv : σ → Prop) (allowed : Failure → Prop) (step : Step σ α) : Prop :=
  ∀ state, inv state → Leaves inv allowed (step state)

namespace Keeps

theorem ok {step : Step σ α} (h : Keeps inv allowed step) {state state' : σ} {a : α}
    (hstate : inv state) (hstep : step state = .ok a state') : inv state' := by
  have hleaves := h state hstate
  rwa [hstep] at hleaves

theorem error {step : Step σ α} (h : Keeps inv allowed step) {state state' : σ}
    {failure : Failure} (hstate : inv state) (hstep : step state = .error failure state') :
    inv state' ∧ allowed failure := by
  have hleaves := h state hstate
  rwa [hstep] at hleaves

theorem left {step : Step σ α} (h : Keeps inv allowed step) {state : σ} (hstate : inv state) :
    inv (Step.left (step state)) := by
  cases hstep : step state with
  | ok a after => exact h.ok hstate hstep
  | error failure after => exact (h.error hstate hstep).1

/-- When any failure will do, what a step leaves is all that counts. -/
theorem of_left {step : Step σ α} (h : ∀ state, inv state → inv (Step.left (step state))) :
    Keeps inv (fun _ => True) step := by
  intro state hstate
  have hleft := h state hstate
  cases hstep : step state with
  | ok a after =>
      rw [hstep] at hleft
      exact hleft
  | error failure after =>
      rw [hstep] at hleft
      exact ⟨hleft, trivial⟩

theorem pure (a : α) : Keeps inv allowed (Pure.pure a : Step σ α) := fun _ hstate => hstate

theorem throw {failure : Failure} (h : allowed failure) :
    Keeps inv allowed (MonadExcept.throw failure : Step σ α) := fun _ hstate => ⟨hstate, h⟩

theorem bind {step : Step σ α} {next : α → Step σ β} (hfirst : Keeps inv allowed step)
    (hnext : ∀ a, Keeps inv allowed (next a)) : Keeps inv allowed (step >>= next) := by
  intro state hstate
  change Leaves inv allowed (EStateM.bind step next state)
  unfold EStateM.bind
  cases hstep : step state with
  | ok a between => exact hnext a between (hfirst.ok hstate hstep)
  | error failure between => exact hfirst.error hstate hstep

end Keeps

end Step

namespace ResponseHead

/-- The head that begins with a status line; its fields are still to be read. -/
def readAfter (line : Text) : Step Reader ResponseHead :=
  match StatusLine.ofLine? line with
  | none => throw (.head (.statusLine line))
  | some ⟨version, code, reason⟩ => do
    let headers ← readFields maxLines []
    match Integer.parse code with
    | .ok status => pure ⟨status, reason, version, headers⟩
    | .error defect => throw (.value (.integer code defect))

theorem read_eq :
    read = (Reader.readLine Chunked.lineLimit >>= fun octets =>
      if octets.isEmpty then throw (.head .empty) else readAfter (lineText octets)) := rfl

end ResponseHead

namespace Reader

/-- A property of readers that filling the buffer keeps, with the kind of failures that may come of
it, and that is the same whatever the buffer has in it. -/
structure Invariant (inv : Reader → Prop) (allowed : Failure → Prop) : Prop where
  fill : Step.Keeps inv allowed Reader.fill
  withBuffer : ∀ reader buffer, inv reader → inv (reader.withBuffer buffer)
  own : ∀ failure, failure.isOwn = true → allowed failure

/-- A property of transports that reading keeps is one of the readers over them. -/
theorem Invariant.of_transport {inv : Transport → Prop} {allowed : Failure → Prop}
    (hread : Step.Keeps inv allowed (Transport.read readChunkSize))
    (hown : ∀ failure, failure.isOwn = true → allowed failure) :
    Invariant (fun reader => inv reader.transport) allowed where
  fill := by
    intro reader hreader
    unfold Reader.fill
    split
    next => exact hreader
    next =>
      split
      next transport h => exact hread.ok hreader h
      next octets transport _ h => exact hread.ok hreader h
      next failure transport h => exact hread.error hreader h
  withBuffer _ _ hreader := hreader
  own := hown

namespace Invariant

variable {inv : Reader → Prop} {allowed : Failure → Prop} (h : Invariant inv allowed)
include h

theorem takeBuffered (count : Nat) : Step.Keeps inv allowed (takeBuffered count) :=
  fun reader hreader => h.withBuffer reader _ hreader

theorem readLine (limit : Int) : Step.Keeps inv allowed (readLine limit) := by
  intro reader hreader
  fun_induction Reader.readLine limit reader with
  | case1 reader count hcount => exact h.takeBuffered count reader hreader
  | case2 reader hnone hfull => exact h.takeBuffered _ reader hreader
  | case3 reader hnone hroom more hfill ih => exact ih (h.fill.ok hreader hfill)
  | case4 reader hnone hroom all hfill => exact h.takeBuffered _ all (h.fill.ok hreader hfill)
  | case5 reader hnone hroom failure after hfill => exact h.fill.error hreader hfill

theorem readAll : Step.Keeps inv allowed readAll := by
  have hall : Step.Keeps inv allowed fillAll := by
    intro reader hreader
    fun_induction Reader.fillAll reader with
    | case1 reader more hfill ih => exact ih (h.fill.ok hreader hfill)
    | case2 reader all hfill => exact h.fill.ok hreader hfill
    | case3 reader failure after hfill => exact h.fill.error hreader hfill
  intro reader hreader
  unfold Reader.readAll
  split
  next all hread => exact h.withBuffer all [] (hall.ok hreader hread)
  next failure after hread => exact hall.error hreader hread

theorem readSome (size : Nat) : Step.Keeps inv allowed (readSome size) := by
  intro reader hreader
  unfold Reader.readSome
  split
  next =>
    split
    next more after hfill => exact h.takeBuffered size after (h.fill.ok hreader hfill)
    next failure after hfill => exact h.fill.error hreader hfill
  next => exact h.takeBuffered size reader hreader

theorem read (size : Int) : Step.Keeps inv allowed (read size) := by
  intro reader hreader
  unfold Reader.read
  split
  next => exact h.readAll reader hreader
  next => exact h.readSome _ reader hreader

theorem readExact (size : Int) : Step.Keeps inv allowed (readExact size) := by
  intro reader hreader
  change Step.Leaves inv allowed (readBlock size.toNat [] reader)
  fun_induction Reader.readBlock size.toNat [] reader with
  | case1 => exact hreader
  | case2 missing got reader hmissing after hread =>
      exact ⟨(h.readSome missing).ok hreader hread, h.own _ (Failure.isOwn_ofMissing missing)⟩
  | case3 missing got reader hmissing b octets after hread ih =>
      exact ih ((h.readSome missing).ok hreader hread)
  | case4 missing got reader hmissing failure after hread =>
      exact (h.readSome missing).error hreader hread

theorem nextBlock : Step.Keeps inv allowed Chunked.next := by
  have htrailer : Step.Keeps inv allowed Chunked.skipTrailer := by
    intro reader hreader
    fun_induction Chunked.skipTrailer reader with
    | case1 reader line after hread hblank => exact (h.readLine _).ok hreader hread
    | case2 reader line after hread hblank ih => exact ih ((h.readLine _).ok hreader hread)
    | case3 reader failure after hread => exact (h.readLine _).error hreader hread
  intro reader hreader
  unfold Chunked.next
  split
  next failure after hline => exact (h.readLine _).error hreader hline
  next line after hline =>
    have hafter := (h.readLine _).ok hreader hline
    dsimp only
    split
    next => exact ⟨hafter, h.own _ rfl⟩
    split
    next => exact ⟨hafter, h.own _ rfl⟩
    split
    next size hsize hzero =>
      split
      next last htrail => exact htrailer.ok hafter htrail
      next failure last htrail => exact htrailer.error hafter htrail
    next size hsize hzero =>
      split
      next octets last hblock => exact (h.readExact size).ok hafter hblock
      next failure last hblock => exact (h.readExact size).error hafter hblock

theorem readFields (lines : Nat) (reversed : Headers) :
    Step.Keeps inv allowed (ResponseHead.readFields lines reversed) := by
  induction lines generalizing reversed with
  | zero => exact .throw (h.own _ rfl)
  | succ lines ih =>
      refine .bind (h.readLine _) fun octets => ?_
      dsimp only
      split
      next => exact .pure _
      next => exact ih _

theorem readHead : Step.Keeps inv allowed ResponseHead.read := by
  rw [ResponseHead.read_eq]
  refine .bind (h.readLine _) fun octets => ?_
  split
  next => exact .throw (h.own _ rfl)
  next =>
    unfold ResponseHead.readAfter
    split
    next => exact .throw (h.own _ rfl)
    next version code reason _ =>
      refine .bind (h.readFields _ _) fun headers => ?_
      split
      next => exact .pure _
      next => exact .throw (h.own _ rfl)

theorem piece (cursor : Cursor) : Step.Keeps inv allowed (Response.piece cursor) := by
  have hchunk : ∀ insideLine, Step.Keeps inv allowed (Response.nextChunk insideLine) := by
    intro insideLine reader hreader
    unfold Response.nextChunk
    split
    next =>
      split
      next line after hline => exact h.nextBlock after ((h.readLine _).ok hreader hline)
      next failure after hline => exact (h.readLine _).error hreader hline
    next => exact h.nextBlock reader hreader
  intro reader hreader
  cases cursor with
  | start | finished => exact hreader
  | counted size remaining =>
      have hread := h.read (min size remaining)
      unfold Response.piece
      dsimp only
      split
      next => exact hreader
      next =>
        split
        next after hnothing => exact ⟨hread.ok hreader hnothing, h.own _ rfl⟩
        next octets after _ hsome => exact hread.ok hreader hsome
        next failure after hfails => exact hread.error hreader hfails
  | chunks insideLine =>
      have hnext := hchunk insideLine
      unfold Response.piece
      dsimp only
      split
      next octets after hsome => exact hnext.ok hreader hsome
      next after hnone => exact hnext.ok hreader hnone
      next failure after hfails => exact hnext.error hreader hfails
  | rest size =>
      have hread := h.read size
      unfold Response.piece
      dsimp only
      split
      next after hnothing => exact hread.ok hreader hnothing
      next octets after _ hsome => exact hread.ok hreader hsome
      next failure after hfails => exact hread.error hreader hfails

end Invariant

end Reader

end HttpFetch
