import HttpFetch.Proofs.Response.LifeCycle

/-!
# What the uses of a response keep

All that is done with a response comes down to reading from its stream and closing it.  So an
invariant of its reader that closing keeps as well holds of it for as long as it is used, through
iterators and past them.  A failure on the way is of the kind that reading has: the pieces of a body
only turn one that would pass for their end into a failure of the request.
-/

namespace HttpFetch

namespace Reader.Invariant

variable {inv : Reader → Prop} {allowed : Failure → Prop} (h : Invariant inv allowed)
include h

theorem amongPieces {failure : Failure} (hfailure : allowed failure) :
    allowed failure.amongPieces := by
  cases failure with
  | fault cause =>
      change allowed (if cause.family = .exhaustion then .exhausted else .fault cause)
      split
      · exact h.own _ rfl
      · exact hfailure
  | _ => exact hfailure

variable (hclose : ∀ reader, inv reader → inv reader.close)
include hclose

omit h in
theorem close {response : Response} (hreader : inv response.reader) :
    inv response.close.reader := by
  unfold Response.close
  split
  · exact hclose _ hreader
  · exact hreader

theorem resume (cursor : Cursor) :
    Step.Keeps (fun response : Response => inv response.reader) allowed
      (Response.resume cursor) := by
  intro response hreader
  have hpiece := h.piece cursor
  unfold Response.resume
  split
  next octets cursor' after hsome => exact hpiece.ok hreader hsome
  next cursor' after hnone => exact close hclose (hpiece.ok hreader hnone)
  next failure after hfails =>
    obtain ⟨hafter, hfailure⟩ := hpiece.error hreader hfails
    exact ⟨close hclose hafter, h.amongPieces hfailure⟩

theorem advance (cursor : Cursor) :
    Step.Keeps (fun response : Response => inv response.reader) allowed
      (Response.advance cursor) := by
  intro response hreader
  cases cursor with
  | counted | chunks | rest => exact h.resume hclose _ response hreader
  | finished => exact hreader
  | start size =>
      change Step.Leaves _ allowed (Response.begin size response)
      unfold Response.begin
      split
      next => exact ⟨hreader, h.own _ rfl⟩
      next =>
        dsimp only
        split
        next => exact hreader
        next =>
          split
          next cursor hcursor => exact h.resume hclose cursor _ hreader
          next failure hcursor =>
            -- Only a length that cannot be read keeps a body from beginning.
            have hown : failure.isOwn = true := by
              unfold Response.Framing.cursor at hcursor
              split at hcursor <;> cases hcursor
              rfl
            exact ⟨close hclose hreader, h.own _ hown⟩

theorem drainFrom (cursor : Cursor) {response : Response} (hreader : inv response.reader) :
    inv (response.drainFrom cursor).response.reader ∧
      ∀ failure ∈ (response.drainFrom cursor).failure, allowed failure := by
  fun_induction Response.drainFrom cursor response with
  | case1 cursor response octets cursor' after hadvance rest ih =>
      exact ih ((h.advance hclose cursor).ok hreader hadvance)
  | case2 cursor response cursor' after hadvance =>
      exact ⟨(h.advance hclose cursor).ok hreader hadvance, by rintro _ ⟨⟩⟩
  | case3 cursor response failure after hadvance =>
      obtain ⟨hafter, hfailure⟩ := (h.advance hclose cursor).error hreader hadvance
      refine ⟨hafter, ?_⟩
      rintro _ ⟨⟩
      exact hfailure

theorem left_read {response : Response} (hreader : inv response.reader) :
    inv (Step.left (Response.read response)).reader := by
  rw [Response.left_read]
  exact (h.drainFrom hclose _ hreader).1

/-- What holds of the reader of a response holds after any use of the response. -/
theorem use (use : Reading.Use) {reading : Reading} (hreader : inv reading.response.reader) :
    inv (use.after reading).response.reader := by
  unfold Reading.Use.after
  cases use with
  | read =>
      change inv (Step.left (Reading.lift .octets Response.read reading)).response.reader
      rw [Reading.left_lift]
      exact h.left_read hclose hreader
  | text encoding =>
      change inv (Step.left (Reading.lift .text (Response.readText encoding)
        reading)).response.reader
      rw [Reading.left_lift, Response.left_readText]
      exact h.left_read hclose hreader
  | iterate size => exact hreader
  | next iterator =>
      simp only [Reading.Use.result, Reading.next]
      split
      next => exact hreader
      next cursor hcursor =>
        have hadvance := (h.advance hclose cursor).left hreader
        split
        next octets cursor' after hgives =>
          rw [hgives] at hadvance
          exact hadvance
        next failure after hfails =>
          rw [hfails] at hadvance
          exact hadvance
  | abandon iterator =>
      simp only [Reading.Use.result, Reading.abandon, Step.left_ok]
      split
      next => exact hreader
      next cursor hcursor =>
        cases cursor with
        | start | finished => exact hreader
        | counted | chunks | rest => exact close hclose hreader
  | stream call =>
      have hcall := (h.call call).left hreader
      simp only [Reading.Use.result, Reading.callStream]
      split
      next =>
        split
        next octets after hgives =>
          rw [hgives] at hcall
          exact hcall
        next failure after hfails =>
          rw [hfails] at hcall
          exact hcall
      next => exact hreader
  | close | leave => exact close hclose hreader
  | enter => exact hreader

theorem uses (uses : List Reading.Use) {reading : Reading}
    (hreader : inv reading.response.reader) :
    inv (Reading.afterUses uses reading).response.reader := by
  induction uses generalizing reading with
  | nil => exact hreader
  | cons use uses ih => exact ih (h.use hclose use hreader)

end Reader.Invariant

end HttpFetch
