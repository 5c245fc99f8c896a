import HttpFetch.Proofs.Response.Iteration
import HttpFetch.Proofs.Stream.Conservation

/-!
# The life of a response

A response is read whole or through iterators, several of them side by side, while it may be closed
at any time and its stream may be read past them.  The first iteration that starts has the body to
itself: every later one is refused and changes nothing.  The invariant (`Reading.Ordered`) tells for
each iterator where it stands from which iteration was the first, and that the stream is attached
exactly while the socket is open.  `Reading.first_has_body` follows from it for each use.
-/

namespace HttpFetch

theorem Silent.call (call : Reader.Call) : Silent call.result :=
  of_keeps fun start => (invariant start).call call

/-! ## Uses of a response -/

/-- A response in use, and where the iterators over its body stand, in the order in which they were
made. -/
structure Reading where
  response : Response
  cursors : List Cursor

namespace Reading

/-- What is done with a response: it is read whole, or iterators are made, advanced and abandoned;
its stream is called past them; it is closed, or used as a context. -/
inductive Use
  | read
  | text (encoding : Text)
  | iterate (size : Int)
  | next (iterator : Nat)
  | abandon (iterator : Nat)
  | stream (call : Reader.Call)
  | close
  | enter
  | leave
  deriving DecidableEq, Repr

/-- What a use answers.  Without a piece an iterator has stopped. -/
inductive Answer
  | done
  | octets (octets : Bytes)
  | text (s : Text)
  | piece (octets : Option Bytes)
  | noStream
  deriving DecidableEq, Repr

def ofResponse (response : Response) : Reading := ⟨response, []⟩

def withResponse (reading : Reading) (response : Response) : Reading :=
  { reading with response := response }

/-- The reading after an iterator has got somewhere else. -/
def moved (reading : Reading) (iterator : Nat) (cursor : Cursor) (response : Response) : Reading :=
  ⟨response, reading.cursors.set iterator cursor⟩

/-- A step of the response that leaves the iterators where they are. -/
def lift {α : Type} (answer : α → Answer) (step : Step Response α) : Step Reading Answer :=
  fun reading =>
    match step reading.response with
    | .ok a response => .ok (answer a) (reading.withResponse response)
    | .error failure response => .error failure (reading.withResponse response)

theorem forall_moved {reading : Reading} {iterator : Nat} {cursor : Cursor} {response : Response}
    {P : Nat → Cursor → Prop} (hnew : P iterator cursor)
    (hold : ∀ other cursor, other ≠ iterator → reading.cursors[other]? = some cursor →
      P other cursor) :
    ∀ other cursor', (reading.moved iterator cursor response).cursors[other]? = some cursor' →
      P other cursor' := by
  intro other cursor' hcursor
  rw [moved, List.getElem?_set] at hcursor
  split at hcursor
  next hsame =>
    subst hsame
    split at hcursor
    next =>
      cases hcursor
      exact hnew
    next => cases hcursor
  next hother => exact hold other cursor' (Ne.symm hother) hcursor

/-- The next piece of an iterator.  One that fails has stopped. -/
def next (iterator : Nat) : Step Reading Answer := fun reading =>
  match reading.cursors[iterator]? with
  | none => .ok .done reading
  | some cursor =>
    match Response.advance cursor reading.response with
    | .ok (octets, cursor) response =>
      .ok (.piece octets) (reading.moved iterator cursor response)
    | .error failure response => .error failure (reading.moved iterator .finished response)

/-- Abandons an iterator. -/
def abandon (iterator : Nat) (reading : Reading) : Reading :=
  match reading.cursors[iterator]? with
  | none => reading
  | some cursor => reading.moved iterator .finished (reading.response.abandon cursor)

/-- A call on the stream, if there still is one. -/
def callStream (call : Reader.Call) : Step Reading Answer := fun reading =>
  if reading.response.attached then
    match call.result reading.response.reader with
    | .ok octets reader =>
      .ok (.octets octets) (reading.withResponse (reading.response.withReader reader))
    | .error failure reader =>
      .error failure (reading.withResponse (reading.response.withReader reader))
  else .ok .noStream reading

namespace Use

/-- What a use comes to. -/
def result : Use → Step Reading Answer
  | read => lift .octets Response.read
  | text encoding => lift .text (Response.readText encoding)
  | iterate size => fun reading =>
    .ok .done { reading with cursors := reading.cursors ++ [.start size] }
  | next iterator => Reading.next iterator
  | abandon iterator => fun reading => .ok .done (reading.abandon iterator)
  | stream call => callStream call
  | close | leave => fun reading => .ok .done (reading.withResponse reading.response.close)
  | enter => fun reading => .ok .done reading

def after (use : Use) (reading : Reading) : Reading := Step.left (use.result reading)

/-- Whether a use starts an iteration: reading does, and the first piece asked of an iterator. -/
def starts (use : Use) (reading : Reading) : Bool :=
  match use with
  | read | text _ => true
  | next iterator =>
    match reading.cursors[iterator]? with
    | some (.start _) => true
    | _ => false
  | _ => false

end Use

/-- The reading that some uses leave, one after the other. -/
def afterUses (uses : List Use) (reading : Reading) : Reading :=
  uses.foldl (fun reading use => use.after reading) reading

/-- The use that starts the first iteration, if one does. -/
def starter? : List Use → Reading → Option Use
  | [], _ => none
  | use :: uses, reading =>
    if use.starts reading then some use else starter? uses (use.after reading)

/-- What an iterator would still give, were nothing else done. -/
def remaining (iterator : Nat) (reading : Reading) : Option Response.Drained :=
  reading.cursors[iterator]?.map fun cursor => reading.response.drainFrom cursor

/-- How the iteration that a use has started ends. -/
inductive Ends : Use → Use → EStateM.Result Failure Reading Answer → Prop
  | read {result} : Ends .read .read result
  | text {encoding : Text} {result} : Ends (.text encoding) (.text encoding) result
  | stop {iterator : Nat} {after : Reading} :
      Ends (.next iterator) (.next iterator) (.ok (.piece none) after)
  | failure {iterator : Nat} {failure : Failure} {after : Reading} :
      Ends (.next iterator) (.next iterator) (.error failure after)
  | abandon {iterator : Nat} {result} : Ends (.next iterator) (.abandon iterator) result

/-! ## The invariant -/

/-- Where an iterator may stand: only the first iteration is ever inside the body, and when it has
stopped there is no stream. -/
def Place (first? : Option Use) (attached : Bool) (iterator : Nat) : Cursor → Prop
  | .start _ => first? ≠ some (.next iterator)
  | .counted .. | .chunks _ | .rest _ => first? = some (.next iterator)
  | .finished => first? = some (.next iterator) → attached = false

section Place

variable {first? : Option Use} {attached attached' : Bool} {iterator : Nat} {cursor : Cursor}

theorem place_of_isBegun (hbegun : cursor.isBegun = true) :
    Place first? attached iterator cursor ↔ first? = some (.next iterator) := by
  cases cursor with
  | counted | chunks | rest => rfl
  | start | finished => cases hbegun

theorem Place.detach (h : Place first? attached iterator cursor)
    (hattached : attached' = true → attached = true) : Place first? attached' iterator cursor := by
  cases cursor with
  | start | counted | chunks | rest => exact h
  | finished =>
      intro hfirst
      have hdetached := h hfirst
      cases hvalue : attached' with
      | false => rfl
      | true => exact absurd (hattached hvalue) (by simp [hdetached])

/-- Before the first iteration has started no iterator is inside the body. -/
theorem Place.start (h : Place none attached iterator cursor) {first : Use}
    (hfirst : first ≠ .next iterator) : Place (some first) attached' iterator cursor := by
  cases cursor with
  | start => exact fun hsame => hfirst (Option.some.inj hsame)
  | counted | chunks | rest => cases h
  | finished => exact fun hsame => absurd (Option.some.inj hsame) hfirst

end Place

/-- A reading in which the given use started the first iteration, if one has started. -/
structure Ordered (first? : Option Use) (reading : Reading) : Prop where
  linked : reading.response.IsLinked
  consumed_eq : reading.response.consumed = first?.isSome
  place : ∀ iterator cursor, reading.cursors[iterator]? = some cursor →
    Place first? reading.response.attached iterator cursor
  made : ∀ iterator, first? = some (.next iterator) → iterator < reading.cursors.length
  whole : ∀ first, first? = some first → (∀ iterator, first ≠ .next iterator) →
    reading.response.attached = false

namespace Ordered

variable {first? : Option Use} {reading : Reading} {response : Response} {use : Use}

theorem withResponse (h : Ordered first? reading) (hlater : reading.response.Later response) :
    Ordered first? (reading.withResponse response) where
  linked := hlater.linked h.linked
  consumed_eq := hlater.consumed_eq.trans h.consumed_eq
  place iterator cursor hcursor := (h.place iterator cursor hcursor).detach hlater.attached
  made := h.made
  whole first hfirst hwhole := by
    have hdetached := h.whole first hfirst hwhole
    cases hvalue : response.attached with
    | false => exact hvalue
    | true => exact absurd (hlater.attached hvalue) (by simp [hdetached])

theorem moved (h : Ordered first? reading) {iterator : Nat} {cursor : Cursor}
    (hlater : reading.response.Later response)
    (hplace : Place first? response.attached iterator cursor) :
    Ordered first? (reading.moved iterator cursor response) := by
  have hstays := h.withResponse hlater
  refine ⟨hstays.linked, hstays.consumed_eq, ?_, ?_, hstays.whole⟩
  · exact forall_moved hplace fun other cursor' _ => hstays.place other cursor'
  · intro other hother
    rw [Reading.moved, List.length_set]
    exact h.made other hother

/-- Reading whole as the first iteration. -/
theorem read (h : Ordered none reading) (hwhole : ∀ iterator, use ≠ .next iterator)
    (hlater : reading.response.started.Later response) (hdetached : response.attached = false) :
    Ordered (some use) (reading.withResponse response) where
  linked := hlater.linked h.linked
  consumed_eq := hlater.consumed_eq
  place iterator cursor hcursor := (h.place iterator cursor hcursor).start (hwhole iterator)
  made iterator hfirst := absurd (Option.some.inj hfirst) (hwhole iterator)
  whole _ _ _ := hdetached

/-- The first piece asked of an iterator as the first iteration. -/
theorem begin (h : Ordered none reading) {iterator : Nat} {cursor : Cursor}
    (hmade : iterator < reading.cursors.length) (hlater : reading.response.started.Later response)
    (hplace : Place (some (.next iterator)) response.attached iterator cursor) :
    Ordered (some (.next iterator)) (reading.moved iterator cursor response) where
  linked := hlater.linked h.linked
  consumed_eq := hlater.consumed_eq
  place := by
    refine forall_moved hplace fun other cursor' hother hcursor => ?_
    have hfirst : Use.next iterator ≠ .next other := by
      rintro ⟨⟩
      exact hother rfl
    exact (h.place other cursor' hcursor).start hfirst
  made other hother := by
    cases hother
    rwa [Reading.moved, List.length_set]
  whole first hfirst hwhole := by
    cases hfirst
    exact absurd rfl (hwhole iterator)

end Ordered

section Step

variable {first? : Option Use} {reading : Reading} {use : Use} {iterator : Nat} {cursor : Cursor}

/-! ## What uses come to -/

theorem left_lift {α : Type} (answer : α → Answer) (step : Step Response α) (reading : Reading) :
    Step.left (lift answer step reading) =
      reading.withResponse (Step.left (step reading.response)) := by
  unfold lift
  split
  next h => rw [h, Step.left_ok, Step.left_ok]
  next h => rw [h, Step.left_error, Step.left_error]

theorem lift_error {α : Type} (answer : α → Answer) {step : Step Response α} {failure : Failure}
    (h : step reading.response = .error failure reading.response) :
    lift answer step reading = .error failure reading := by
  simp only [lift, h]
  rfl

theorem read_refused (hconsumed : reading.response.consumed = true) :
    Use.read.result reading = .error .responseConsumed reading :=
  lift_error _ (Response.read_of_consumed hconsumed)

theorem text_refused (hconsumed : reading.response.consumed = true) (encoding : Text) :
    (Use.text encoding).result reading = .error .responseConsumed reading :=
  lift_error _ (Response.readText_of_consumed hconsumed encoding)

theorem next_refused {size : Int} (hcursor : reading.cursors[iterator]? = some (.start size))
    (hconsumed : reading.response.consumed = true) :
    (Use.next iterator).result reading = .error .responseConsumed
      (reading.moved iterator .finished reading.response) := by
  have hadvance : Response.advance (.start size) reading.response =
      .error .responseConsumed reading.response := Response.begin_of_consumed hconsumed size
  simp only [Use.result, Reading.next, hcursor, hadvance]

theorem next_finished (hcursor : reading.cursors[iterator]? = some .finished) :
    (Use.next iterator).result reading =
      .ok (.piece none) (reading.moved iterator .finished reading.response) := by
  simp only [Use.result, Reading.next, hcursor]
  rfl

theorem exists_start (hstarts : (Use.next iterator).starts reading = true) :
    ∃ size, reading.cursors[iterator]? = some (.start size) := by
  unfold Use.starts at hstarts
  dsimp only at hstarts
  split at hstarts
  next size hcursor => exact ⟨size, hcursor⟩
  next => cases hstarts

/-- An iterator that runs gets somewhere inside the body or stops. -/
theorem exists_moved {start : Response} (hcursor : reading.cursors[iterator]? = some cursor)
    (hruns : start.Runs (Response.advance cursor reading.response)) :
    ∃ cursor' response', (Use.next iterator).after reading =
        reading.moved iterator cursor' response' ∧ start.Later response' ∧
      Place (some (.next iterator)) response'.attached iterator cursor' := by
  simp only [Use.after, Use.result, Reading.next, hcursor]
  generalize Response.advance cursor reading.response = result at hruns
  cases hruns with
  | gives silent begun =>
      exact ⟨_, _, rfl, .withReader silent, (place_of_isBegun begun).mpr rfl⟩
  | stops silent =>
      exact ⟨_, _, rfl, (Response.Later.withReader silent).trans (.close _),
        fun _ => Response.attached_close _⟩
  | fails silent =>
      exact ⟨_, _, rfl, (Response.Later.withReader silent).trans (.close _),
        fun _ => Response.attached_close _⟩

theorem getElem?_moved (hcursor : reading.cursors[iterator]? = some cursor) (cursor' : Cursor)
    (response : Response) :
    (reading.moved iterator cursor' response).cursors[iterator]? = some cursor' :=
  List.getElem?_set_self (List.getElem?_eq_some_iff.mp hcursor).1

/-- An iterator that gives no piece has stopped. -/
theorem stopped_of_next (hmade : iterator < reading.cursors.length)
    (hnone : ∀ octets after,
      (Use.next iterator).result reading ≠ .ok (.piece (some octets)) after) :
    ((Use.next iterator).after reading).cursors[iterator]? = some .finished := by
  have hcursor := List.getElem?_eq_getElem hmade
  simp only [Use.after, Use.result, Reading.next, hcursor] at hnone ⊢
  split
  next octets cursor' response hadvance =>
    cases octets with
    | some octets => exact absurd (by rw [hadvance]) (hnone octets _)
    | none =>
        cases Response.finished_of_advance hadvance
        exact getElem?_moved hcursor _ _
  next => exact getElem?_moved hcursor _ _

theorem length_after_next :
    ((Use.next iterator).after reading).cursors.length = reading.cursors.length := by
  simp only [Use.after, Use.result, Reading.next]
  split
  next => rfl
  next => split <;> exact List.length_set

/-! ## One use -/

theorem Ordered.iterate (h : Ordered first? reading) (size : Int) :
    Ordered first? ((Use.iterate size).after reading) := by
  refine ⟨h.linked, h.consumed_eq, ?_, ?_, h.whole⟩
  · intro iterator cursor hcursor
    change (reading.cursors ++ [.start size])[iterator]? = some cursor at hcursor
    by_cases hold : iterator < reading.cursors.length
    · rw [List.getElem?_append_left hold] at hcursor
      exact h.place iterator cursor hcursor
    · rw [List.getElem?_append_right (Nat.not_lt.mp hold)] at hcursor
      cases List.mem_singleton.mp (List.mem_of_getElem? hcursor)
      exact fun hfirst => hold (h.made iterator hfirst)
  · intro iterator hfirst
    have hmade := h.made iterator hfirst
    simp only [Use.after, Use.result, Step.left_ok, List.length_append]
    omega

/-- An iterator that does not start the first iteration is refused, or it is the first one, or it
has stopped. -/
theorem Ordered.next (h : Ordered first? reading)
    (hstays : (Use.next iterator).starts reading = true → first?.isSome = true) :
    Ordered first? ((Use.next iterator).after reading) := by
  cases hcursor : reading.cursors[iterator]? with
  | none =>
      simp only [Use.after, Use.result, Reading.next, hcursor, Step.left_ok]
      exact h
  | some cursor =>
      have hplace := h.place iterator cursor hcursor
      by_cases hbegun : cursor.isBegun = true
      · obtain ⟨cursor', response, hafter, hlater, hplace'⟩ := exists_moved hcursor
          (Response.advance_of_isBegun hbegun ▸ Response.resume_runs cursor reading.response)
        rw [hafter]
        refine h.moved hlater ?_
        rwa [(place_of_isBegun hbegun).mp hplace]
      · cases cursor with
        | start size =>
            -- Another iteration has started before, for this one would be the first.
            have hstarts : (Use.next iterator).starts reading = true := by
              simp only [Use.starts, hcursor]
            have hconsumed := h.consumed_eq.trans (hstays hstarts)
            rw [Use.after, next_refused hcursor hconsumed]
            exact h.moved (.refl _) fun hfirst => absurd hfirst hplace
        | finished =>
            rw [Use.after, next_finished hcursor]
            exact h.moved (.refl _) hplace
        | counted | chunks | rest => exact absurd rfl hbegun

theorem Ordered.abandon (h : Ordered first? reading) (iterator : Nat) :
    Ordered first? (reading.abandon iterator) := by
  unfold Reading.abandon
  split
  next => exact h
  next cursor hcursor =>
    have hplace := h.place iterator cursor hcursor
    cases cursor with
    | start => exact h.moved (.refl _) fun hfirst => absurd hfirst hplace
    | finished => exact h.moved (.refl _) hplace
    | counted | chunks | rest => exact h.moved (.close _) fun _ => Response.attached_close _

theorem Ordered.callStream (h : Ordered first? reading) (call : Reader.Call) :
    Ordered first? (Step.left (Reading.callStream call reading)) := by
  unfold Reading.callStream
  split
  next =>
    split
    next octets reader hcall => exact h.withResponse (.withReader ((Silent.call call).ok hcall))
    next failure reader hcall => exact h.withResponse (.withReader ((Silent.call call).error hcall))
  next => exact h

/-- A use that starts no first iteration. -/
theorem Ordered.stays (h : Ordered first? reading)
    (hstays : use.starts reading = true → first?.isSome = true) :
    Ordered first? (use.after reading) := by
  cases use with
  | read =>
      have hconsumed := h.consumed_eq.trans (hstays rfl)
      rwa [Use.after, read_refused hconsumed]
  | text encoding =>
      have hconsumed := h.consumed_eq.trans (hstays rfl)
      rwa [Use.after, text_refused hconsumed]
  | iterate size => exact h.iterate size
  | next iterator => exact h.next hstays
  | abandon iterator => exact h.abandon iterator
  | stream call => exact h.callStream call
  | close | leave => exact h.withResponse (.close _)
  | enter => exact h

/-- The use that starts the first iteration. -/
theorem Ordered.begins (h : Ordered none reading) (hstarts : use.starts reading = true) :
    Ordered (some use) (use.after reading) := by
  have hfresh : reading.response.consumed = false := h.consumed_eq
  have hwhole := Response.left_read_of_fresh hfresh
  cases use with
  | read =>
      rw [Use.after, Use.result, left_lift]
      exact h.read (fun _ => nofun) hwhole.1 hwhole.2
  | text encoding =>
      rw [Use.after, Use.result, left_lift, Response.left_readText]
      exact h.read (fun _ => nofun) hwhole.1 hwhole.2
  | next iterator =>
      obtain ⟨size, hcursor⟩ := exists_start hstarts
      obtain ⟨cursor, response, hafter, hlater, hplace⟩ :=
        exists_moved hcursor (Response.begin_runs hfresh size)
      rw [hafter]
      exact h.begin (List.getElem?_eq_some_iff.mp hcursor).1 hlater hplace
  | iterate | abandon | stream | close | enter | leave => cases hstarts

/-- Once an iteration has started, a use that starts another is refused. -/
theorem Ordered.refused {first : Use} (h : Ordered (some first) reading)
    (hstarts : use.starts reading = true) :
    use.result reading = .error .responseConsumed (use.after reading) ∧
      (use.after reading).response = reading.response ∧
      ∀ iterator, first = .next iterator →
        (use.after reading).cursors[iterator]? = reading.cursors[iterator]? := by
  have hconsumed : reading.response.consumed = true := h.consumed_eq
  cases use with
  | read =>
      rw [Use.after, read_refused hconsumed]
      exact ⟨rfl, rfl, fun _ _ => rfl⟩
  | text encoding =>
      rw [Use.after, text_refused hconsumed]
      exact ⟨rfl, rfl, fun _ _ => rfl⟩
  | next iterator =>
      obtain ⟨size, hcursor⟩ := exists_start hstarts
      rw [Use.after, next_refused hcursor hconsumed]
      refine ⟨rfl, rfl, fun other hother => ?_⟩
      have hne : iterator ≠ other := by
        rintro rfl
        exact h.place iterator (.start size) hcursor (congrArg some hother)
      exact List.getElem?_set_ne hne
  | iterate | abandon | stream | close | enter | leave => cases hstarts

/-- An iterator that is not the first one to have started gives nothing and takes nothing. -/
theorem Ordered.next_foreign (h : Ordered first? reading)
    (hforeign : first? ≠ some (.next iterator))
    (hstays : (Use.next iterator).starts reading = true → first?.isSome = true) :
    ((Use.next iterator).after reading).response = reading.response ∧
      ∀ octets after, (Use.next iterator).result reading ≠ .ok (.piece (some octets)) after := by
  cases hcursor : reading.cursors[iterator]? with
  | none => simp [Use.after, Use.result, Reading.next, hcursor]
  | some cursor =>
      have hplace := h.place iterator cursor hcursor
      cases cursor with
      | start size =>
          have hstarts : (Use.next iterator).starts reading = true := by
            simp only [Use.starts, hcursor]
          have hconsumed := h.consumed_eq.trans (hstays hstarts)
          rw [Use.after, next_refused hcursor hconsumed]
          exact ⟨rfl, fun _ _ => nofun⟩
      | finished =>
          rw [Use.after, next_finished hcursor]
          exact ⟨rfl, fun _ _ => nofun⟩
      | counted | chunks | rest => exact absurd hplace hforeign

theorem Ordered.abandon_foreign (h : Ordered first? reading)
    (hforeign : first? ≠ some (.next iterator)) :
    (reading.abandon iterator).response = reading.response := by
  unfold Reading.abandon
  split
  next => rfl
  next cursor hcursor =>
    have hplace := h.place iterator cursor hcursor
    cases cursor with
    | start | finished => rfl
    | counted | chunks | rest => exact absurd hplace hforeign

/-- When the first iteration ends, there is no stream. -/
theorem Ordered.ended {first : Use} (h : Ordered (some first) (use.after reading))
    (hends : Ends first use (use.result reading)) :
    (use.after reading).response.attached = false := by
  have hstopped {iterator : Nat} (hnext : first = .next iterator) (huse : use = .next iterator)
      (hnone : ∀ octets after, use.result reading ≠ .ok (.piece (some octets)) after) :
      (use.after reading).response.attached = false := by
    subst hnext huse
    have hmade := h.made iterator rfl
    rw [length_after_next] at hmade
    exact h.place iterator .finished (stopped_of_next hmade hnone) rfl
  generalize hresult : use.result reading = result at hends
  cases hends with
  | read => exact h.whole .read rfl fun _ => nofun
  | text => exact h.whole (.text _) rfl fun _ => nofun
  | stop =>
      refine hstopped rfl rfl ?_
      rw [hresult]
      exact fun _ _ => nofun
  | failure =>
      refine hstopped rfl rfl ?_
      rw [hresult]
      exact fun _ _ => nofun
  | @abandon iterator =>
      have hmade : iterator < (reading.abandon iterator).cursors.length := h.made iterator rfl
      refine h.place iterator .finished ?_ rfl
      change (reading.abandon iterator).cursors[iterator]? = _
      rw [Reading.abandon] at hmade ⊢
      split at hmade
      next hnone =>
        rw [List.getElem?_eq_none_iff] at hnone
        omega
      next cursor hcursor => exact getElem?_moved hcursor _ _

end Step

/-! ## Any uses -/

theorem afterUses_concat (uses : List Use) (use : Use) (reading : Reading) :
    afterUses (uses ++ [use]) reading = use.after (afterUses uses reading) := by
  simp [afterUses]

theorem starter?_concat (uses : List Use) (use : Use) (reading : Reading) :
    starter? (uses ++ [use]) reading =
      (starter? uses reading).or
        (if use.starts (afterUses uses reading) then some use else none) := by
  induction uses generalizing reading with
  | nil => rfl
  | cons first uses ih =>
      simp only [List.cons_append, starter?]
      split
      next => rfl
      next => exact ih _

/-- An iterator that is not the first one by a use of it was not the first one before, and starts
only after another. -/
theorem starter?_of_foreign {uses : List Use} {use : Use} {reading : Reading} {iterator : Nat}
    (huse : use = .next iterator ∨ use = .abandon iterator)
    (hforeign : starter? (uses ++ [use]) reading ≠ some (.next iterator)) :
    starter? uses reading ≠ some (.next iterator) ∧
      (use.starts (afterUses uses reading) = true → (starter? uses reading).isSome = true) := by
  rw [starter?_concat] at hforeign
  cases hfirst : starter? uses reading with
  | some first =>
      rw [hfirst] at hforeign
      exact ⟨hforeign, fun _ => rfl⟩
  | none =>
      rw [hfirst, Option.none_or] at hforeign
      refine ⟨nofun, fun hstarts => ?_⟩
      rcases huse with rfl | rfl
      · exact absurd (if_pos hstarts) hforeign
      · cases hstarts

theorem Ordered.afterUses {reading : Reading} (h : Ordered none reading) (uses : List Use) :
    Ordered (starter? uses reading) (Reading.afterUses uses reading) := by
  induction uses using List.reverseRecOn with
  | nil => exact h
  | append_singleton uses use ih =>
      rw [starter?_concat, afterUses_concat]
      cases hfirst : starter? uses reading with
      | some first =>
          rw [hfirst] at ih
          exact ih.stays fun _ => rfl
      | none =>
          rw [hfirst] at ih
          rw [Option.none_or]
          split
          next hstarts => exact ih.begins hstarts
          next hstarts => exact ih.stays fun h => absurd h hstarts

/-- Whatever is done with a response: its stream is attached exactly while the socket is open.  The
first iteration that starts has the body to itself; every later one is refused, other iterators give
nothing, and neither changes the response or what the first iteration will still give.  When that
ends, however it does, the socket is closed. -/
theorem first_has_body (head : ResponseHead) (url : Option Url) (method : Text) {reader : Reader}
    (hopen : reader.transport.socket.isClosed = false) (uses : List Use) (use : Use) :
    let start := ofResponse { Response.ofHead head url method reader with attached := true }
    let before := afterUses uses start
    let after := use.after before
    (after.response.attached = true ↔
        after.response.reader.transport.socket.isClosed = false) ∧
      (∀ first, starter? uses start = some first → use.starts before = true →
        use.result before = .error .responseConsumed after ∧ after.response = before.response ∧
          ∀ iterator, first = .next iterator →
            after.remaining iterator = before.remaining iterator) ∧
      (∀ iterator, use = .next iterator ∨ use = .abandon iterator →
        starter? (uses ++ [use]) start ≠ some (.next iterator) →
          after.response = before.response ∧
            ∀ octets, use.result before ≠ .ok (.piece (some octets)) after) ∧
      ∀ first, starter? (uses ++ [use]) start = some first →
        Ends first use (use.result before) →
          after.response.attached = false ∧
            after.response.reader.transport.socket.isClosed = true := by
  intro start before after
  have hstart : Ordered none start := by
    refine ⟨?_, rfl, fun _ _ hcursor => ?_, nofun, nofun⟩
    · exact iff_of_true rfl hopen
    · cases hcursor
  have hbefore : Ordered (starter? uses start) before := hstart.afterUses uses
  have hafter : Ordered (starter? (uses ++ [use]) start) after := by
    have hall := hstart.afterUses (uses ++ [use])
    rwa [afterUses_concat] at hall
  refine ⟨hafter.linked, ?_, ?_, ?_⟩
  · intro first hfirst hstarts
    rw [hfirst] at hbefore
    obtain ⟨hresult, hresponse, hcursors⟩ := hbefore.refused hstarts
    refine ⟨hresult, hresponse, fun iterator hiterator => ?_⟩
    have hcursor := hcursors iterator hiterator
    change after.cursors[iterator]? = before.cursors[iterator]? at hcursor
    rw [remaining, remaining, hcursor, hresponse]
  · intro iterator huse hforeign
    have hfirst := starter?_of_foreign huse hforeign
    rcases huse with rfl | rfl
    · obtain ⟨hresponse, hnothing⟩ := hbefore.next_foreign hfirst.1 hfirst.2
      exact ⟨hresponse, fun octets => hnothing octets after⟩
    · exact ⟨hbefore.abandon_foreign hfirst.1, fun _ => nofun⟩
  · intro first hfirst hends
    rw [hfirst] at hafter
    have hdetached := hafter.ended hends
    refine ⟨hdetached, ?_⟩
    cases hclosed : after.response.reader.transport.socket.isClosed with
    | true => rfl
    | false =>
        exact absurd (hdetached.symm.trans (hafter.linked.mpr hclosed)) Bool.false_ne_true

/-- Two iterators over a chunked body, of which the second is advanced first: reading whole is then
refused, and abandoning that iterator closes the socket. -/
theorem first_has_body_chunked :
    let reader := Reader.ofTransport (.ofArrivals false
      [.data (Utf8.encode "2\r\nab\r\n0\r\n".toList), .data (Utf8.encode "\r\n".toList)])
    let head : ResponseHead := ⟨200, "OK".toList, "HTTP/1.1".toList,
      [⟨"Transfer-Encoding".toList, "chunked".toList⟩]⟩
    let before := afterUses [.iterate 1, .iterate 4096, .next 1]
      (ofResponse { Response.ofHead head none "GET".toList reader with attached := true })
    reader.transport.socket.isClosed = false ∧
      Use.read.result before = .error .responseConsumed (Use.read.after before) ∧
      (Use.read.after before).response = before.response ∧
      (Use.read.after before).remaining 1 = before.remaining 1 ∧
      ((Use.abandon 1).after before).response.reader.transport.socket.isClosed = true := by
  intro reader head before
  have hopen : reader.transport.socket.isClosed = false := rfl
  obtain ⟨-, hrefused, -, -⟩ := first_has_body head none "GET".toList hopen
    [.iterate 1, .iterate 4096, .next 1] .read
  obtain ⟨-, -, -, hends⟩ := first_has_body head none "GET".toList hopen
    [.iterate 1, .iterate 4096, .next 1] (.abandon 1)
  obtain ⟨hresult, hresponse, hremaining⟩ := hrefused (.next 1) rfl rfl
  exact ⟨hopen, hresult, hresponse, hremaining 1 rfl, (hends (.next 1) rfl .abandon).2⟩

end Reading

end HttpFetch
