import HttpFetch.Cookie.Date
import HttpFetch.Proofs.Number.Alphabet

/-!
# Dates that fail

Most texts that are no date are read as none.  A few are refused with a failure instead: a date in
the strict form whose month is none, and a date in the loose form whose year has too many digits or
is short and cannot be completed.  `CookieDate.parse_fails_iff` says that there are no others.  A
date that is read is near enough to the epoch to be held as a double.
-/

namespace HttpFetch

/-- Whether a computation gives a failure. -/
def Fails {ε α : Type} (result : Except ε α) : Prop := ∃ failure, result = .error failure

section Fails

variable {ε α β : Type}

@[simp] theorem not_fails_ok (a : α) : ¬ Fails (.ok a : Except ε α) := nofun

@[simp] theorem fails_error (failure : ε) : Fails (.error failure : Except ε α) := ⟨failure, rfl⟩

instance (result : Except ε α) : Decidable (Fails result) :=
  match result with
  | .ok a => isFalse (not_fails_ok a)
  | .error failure => isTrue (fails_error failure)

@[simp] theorem fails_map {f : α → β} {result : Except ε α} :
    Fails (result.map f) ↔ Fails result := by
  cases result with
  | ok a => exact iff_of_false (not_fails_ok (f a)) (not_fails_ok a)
  | error failure => exact iff_of_true (fails_error failure) (fails_error failure)

theorem fails_bind {result : Except ε α} {next : α → Except ε β} :
    Fails (result >>= next) ↔ Fails result ∨ ∃ a, result = .ok a ∧ Fails (next a) := by
  cases result with
  | ok a =>
      constructor
      · exact fun h => Or.inr ⟨a, rfl, h⟩
      · rintro (h | ⟨b, hb, h⟩)
        · exact absurd h (not_fails_ok a)
        · cases hb
          exact h
  | error failure => exact iff_of_true (fails_error failure) (Or.inl (fails_error failure))

theorem ok_of_bind {result : Except ε α} {next : α → Except ε β} {b : β}
    (h : result >>= next = .ok b) : ∃ a, result = .ok a ∧ next a = .ok b := by
  cases result with
  | ok a => exact ⟨a, rfl, h⟩
  | error failure => cases h

theorem fails_mapM {f : α → Except ε β} {inputs : List α} :
    Fails (inputs.mapM f) ↔ ∃ a ∈ inputs, Fails (f a) := by
  induction inputs with
  | nil => exact iff_of_false (not_fails_ok []) (by simp)
  | cons a inputs ih =>
      rw [List.mapM_cons, fails_bind, List.exists_mem_cons_iff]
      cases hfirst : f a with
      | ok b =>
          rw [← ih]
          simp only [not_fails_ok, false_or, fails_bind]
          constructor
          · rintro ⟨b, -, h | ⟨bs, -, h⟩⟩
            · exact h
            · exact absurd h (not_fails_ok _)
          · exact fun h => ⟨b, rfl, Or.inl h⟩
      | error failure =>
          exact iff_of_true (Or.inl (fails_error failure)) (Or.inl (fails_error failure))

theorem exists_of_mem_mapM {f : α → Except ε β} {inputs : List α} {outputs : List β}
    (h : inputs.mapM f = .ok outputs) {b : β} (hb : b ∈ outputs) : ∃ a ∈ inputs, f a = .ok b := by
  induction inputs generalizing outputs with
  | nil =>
      cases h
      exact absurd hb List.not_mem_nil
  | cons a inputs ih =>
      rw [List.mapM_cons] at h
      cases hfirst : f a with
      | error failure =>
          rw [hfirst] at h
          cases h
      | ok first =>
          cases hrest : inputs.mapM f with
          | error failure =>
              rw [hfirst, hrest] at h
              cases h
          | ok rest =>
              rw [hfirst, hrest] at h
              cases h
              rcases List.mem_cons.mp hb with rfl | hb
              · exact ⟨a, List.mem_cons_self, hfirst⟩
              · obtain ⟨a', ha', hfa'⟩ := ih hrest hb
                exact ⟨a', List.mem_cons_of_mem a ha', hfa'⟩

end Fails

/-! ## Numbers of few digits -/

theorem forall_ascii {P : Char → Prop} (h : ∀ n < 128, P (Char.ofNat n)) {c : Char}
    (hc : c.toNat < 128) : P c := by
  have hchar := h c.toNat hc
  rwa [Char.ofNat_toNat] at hchar

theorem ascii_of_isAlphanum {c : Char} (h : c.isAlphanum = true) : c.toNat < 128 := by
  have hkind : c.isAlpha = true ∨ c.isDigit = true := (Bool.or_eq_true _ _).mp h
  rcases hkind with halpha | hdigit
  · have hcase : c.isUpper = true ∨ c.isLower = true := (Bool.or_eq_true _ _).mp halpha
    rcases hcase with hupper | hlower
    · have hle : c.toNat ≤ 90 := (of_decide_eq_true hupper).2
      omega
    · have hle : c.toNat ≤ 122 := of_decide_eq_true ((Bool.and_eq_true _ _).mp hlower).2
      omega
  · have hle : c.toNat ≤ 57 := of_decide_eq_true ((Bool.and_eq_true _ _).mp hdigit).2
    omega

namespace Digit

theorem decimal_lt {c : Char} {d : Nat} (h : decimal? c = some d) : d < 10 := by
  unfold decimal? at h
  split at h
  next =>
    split at h
    next hdigit =>
      have hle : c.toNat ≤ 57 := hdigit.2
      cases h
      omega
    next => cases h
  next =>
    obtain ⟨first, hfirst, rfl⟩ := Option.map_eq_some_iff.mp h
    have hrange := List.find?_some hfirst
    simp only [Bool.and_eq_true, decide_eq_true_eq] at hrange
    omega

theorem value_lt {digits : List Nat} (h : ∀ d ∈ digits, d < 10) :
    value 10 digits < 10 ^ digits.length := by
  induction digits using List.reverseRecOn with
  | nil => exact Nat.one_pos
  | append_singleton digits d ih =>
      rw [List.forall_mem_append, List.forall_mem_singleton] at h
      have hdigits := ih h.1
      rw [value, List.foldl_append, ← value, List.length_append, List.length_singleton, pow_succ]
      simp only [List.foldl_cons, List.foldl_nil]
      omega

end Digit

namespace CookieDate

theorem number_lt (digits : Text) : number digits < 10 ^ digits.length := by
  have hdigits : ∀ d ∈ digits.filterMap Digit.decimal?, d < 10 := by
    intro d hd
    obtain ⟨c, -, hc⟩ := List.mem_filterMap.mp hd
    exact Digit.decimal_lt hc
  exact (Digit.value_lt hdigits).trans_le
    (Nat.pow_le_pow_right (by omega) (List.length_filterMap_le _ _))

theorem digits_lt {count : Nat} {s rest : Text} {n : Nat} (h : digits? count s = some (n, rest)) :
    n < 10 ^ count := by
  unfold digits? at h
  simp only at h
  split at h
  next hdigits =>
    cases h
    simp only [Bool.and_eq_true, decide_eq_true_eq] at hdigits
    have hnumber := number_lt (s.take count)
    rwa [hdigits.1] at hnumber
  next => cases h

/-! ## Moments -/

def InRange (year : Int) (month day hour minute second : Nat) : Prop :=
  1970 ≤ year ∧ 1 ≤ month ∧ month ≤ 12 ∧ 1 ≤ day ∧ day ≤ 31 ∧ hour ≤ 24 ∧ minute ≤ 59 ∧ second ≤ 61

theorem moment_fails_iff {year : Int} {month day hour minute second : Nat} :
    Fails (moment year month day hour minute second) ↔
      InRange year month day hour minute second ∧ 9999 < year := by
  unfold moment
  split
  next hrange =>
    split
    next hlate => exact iff_of_true (fails_error _) ⟨hrange, hlate⟩
    next hyear => exact iff_of_false (not_fails_ok _) fun h => hyear h.2
  next hrange => exact iff_of_false (not_fails_ok _) fun h => hrange h.1

theorem moment_bound {year : Int} {month day hour minute second : Nat} {time : Int}
    (h : moment year month day hour minute second = .ok (some time)) : time.natAbs ≤ 10 ^ 12 := by
  unfold moment at h
  split at h
  next hrange =>
    split at h
    next => cases h
    next hyear =>
      cases h
      unfold Calendar.seconds Calendar.daysToMonth Calendar.epochShift
      simp only [Int.fdiv_eq_ediv_of_nonneg _ (show (0 : Int) ≤ 4 by omega),
        Int.fdiv_eq_ediv_of_nonneg _ (show (0 : Int) ≤ 100 by omega),
        Int.fdiv_eq_ediv_of_nonneg _ (show (0 : Int) ≤ 400 by omega)]
      omega
  next => cases h

/-! ## The strict form -/

theorem Strict.year_lt {s : Text} {date : Strict} (h : Strict.ofText? s = some date) :
    date.year < 10000 := by
  unfold Strict.ofText? at h
  obtain ⟨⟨weekday, s1⟩, -, h⟩ := Option.bind_eq_some_iff.mp h
  obtain ⟨s2, -, h⟩ := Option.bind_eq_some_iff.mp h
  obtain ⟨⟨day, s3⟩, -, h⟩ := Option.bind_eq_some_iff.mp h
  obtain ⟨s4, -, h⟩ := Option.bind_eq_some_iff.mp h
  obtain ⟨⟨month, s5⟩, -, h⟩ := Option.bind_eq_some_iff.mp h
  obtain ⟨s6, -, h⟩ := Option.bind_eq_some_iff.mp h
  obtain ⟨⟨year, s7⟩, hyear, h⟩ := Option.bind_eq_some_iff.mp h
  obtain ⟨s8, -, h⟩ := Option.bind_eq_some_iff.mp h
  obtain ⟨⟨hour, s9⟩, -, h⟩ := Option.bind_eq_some_iff.mp h
  obtain ⟨s10, -, h⟩ := Option.bind_eq_some_iff.mp h
  obtain ⟨⟨minute, s11⟩, -, h⟩ := Option.bind_eq_some_iff.mp h
  obtain ⟨s12, -, h⟩ := Option.bind_eq_some_iff.mp h
  obtain ⟨⟨second, s13⟩, -, h⟩ := Option.bind_eq_some_iff.mp h
  obtain ⟨s14, -, h⟩ := Option.bind_eq_some_iff.mp h
  split at h
  next =>
    cases h
    exact digits_lt hyear
  next => cases h

/-- A date in the strict form fails only for its month. -/
theorem Strict.time_fails_iff {date : Strict} (hyear : date.year < 10000) :
    Fails date.time ↔ monthOfName? (date.month.map Char.toLower) = none := by
  unfold Strict.time
  simp only
  split
  next hmonth => exact iff_of_true (fails_error _) hmonth
  next month hmonth =>
    rw [moment_fails_iff, hmonth]
    exact iff_of_false (fun h => by omega) nofun

/-! ## The loose form -/

namespace Loose

def UntoldYear (now : Int) : Prop :=
  now < -Calendar.clockRange ∨ Calendar.clockRange ≤ now ∨
    Calendar.yearAt now < Calendar.firstYear ∨ Calendar.lastYear < Calendar.yearAt now

theorem fullYear_fails_iff {now year : Int} :
    Fails (fullYear now year) ↔ year < 1000 ∧ UntoldYear now := by
  unfold fullYear currentYear UntoldYear
  split
  next hshort =>
    simp only [fails_map, hshort, true_and]
    split
    next hclock => exact iff_of_true (fails_error _) (by tauto)
    next hclock =>
      split
      next huntold => exact iff_of_true (fails_error _) (by tauto)
      next htold => exact iff_of_false (not_fails_ok _) (by tauto)
  next hlong => exact iff_of_false (not_fails_ok _) fun h => hlong h.1

/-- A date in the loose form that fails: its year has too many digits, or it is short and the
current year cannot be told, or it is short and is completed beyond the last year. -/
inductive Refused (now : Int) (date : Loose) : Prop
  | longYear (long : 4300 < date.year.length)
  | untoldYear (month : Nat) (named : month? date.month = some month)
    (short : number date.year < 1000) (untold : UntoldYear now)
  | lateYear (month : Nat) (year : Int) (named : month? date.month = some month)
    (short : number date.year < 1000) (completed : fullYear now (number date.year) = .ok year)
    (late : 9999 < year)
    (in_range : InRange year month date.day date.clock.hour date.clock.minute date.clock.second)

theorem time_fails_iff {now : Int} {date : Loose} (hne : date.year ≠ [])
    (hover : date.year.Over Text.decimalDigits) : Fails (date.time now) ↔ date.Refused now := by
  unfold time
  by_cases hlong : 4300 < date.year.length
  · rw [Integer.parse_of_over_long hne hover hlong]
    exact iff_of_true (fails_error _) (.longYear hlong)
  have hparse : Integer.parse date.year = .ok (number date.year : Int) :=
    Integer.parse_of_over hne hover (Nat.not_lt.mp hlong)
  rw [hparse]
  simp only
  split
  next hlate =>
    refine iff_of_false (not_fails_ok _) ?_
    rintro (long | ⟨month, -, short⟩ | ⟨month, year, -, short⟩)
    · exact hlong long
    · omega
    · omega
  next hyear =>
    cases hmonth : month? date.month with
    | none =>
        refine iff_of_false (not_fails_ok _) ?_
        rintro (long | ⟨month, named⟩ | ⟨month, year, named⟩)
        · exact hlong long
        · cases hmonth.symm.trans named
        · cases hmonth.symm.trans named
    | some month =>
        simp only [fails_bind, fullYear_fails_iff, moment_fails_iff]
        constructor
        · rintro (⟨hshort, huntold⟩ | ⟨year, hfull, ⟨hrange, hlate⟩ | ⟨time, -, hrest⟩⟩)
          · exact .untoldYear month hmonth (by omega) huntold
          · have hshort : number date.year < 1000 := by
              by_contra hlong
              rw [fullYear, if_neg (by omega)] at hfull
              cases hfull
              exact hyear hlate
            exact .lateYear month year hmonth hshort hfull hlate hrange
          · cases time with
            | none => exact absurd hrest (not_fails_ok _)
            | some time => exact absurd hrest (not_fails_ok _)
        · rintro (long | ⟨month', -, short, untold⟩ |
            ⟨month', year, named, -, completed, late, in_range⟩)
          · exact absurd long hlong
          · exact Or.inl ⟨by omega, untold⟩
          · cases hmonth.symm.trans named
            exact Or.inr ⟨year, completed, Or.inl ⟨in_range, late⟩⟩

theorem run_spec {inRun : Char → Bool} {s run rest : Text} (h : run? inRun s = some (run, rest)) :
    run ≠ [] ∧ ∀ c ∈ run, inRun c = true := by
  unfold run? at h
  simp only at h
  split at h
  next => cases h
  next hne =>
    cases h
    exact ⟨by simpa using hne, fun c hc => List.mem_takeWhile_imp hc⟩

theorem digitRun_length {least most : Nat} {s run rest : Text}
    (h : digitRun? least most s = some (run, rest)) : run.length ≤ most := by
  unfold digitRun? at h
  obtain ⟨⟨digits, after⟩, -, h⟩ := Option.bind_eq_some_iff.mp h
  simp only at h
  split at h
  next hlength =>
    cases h
    exact hlength.2
  next => cases h

theorem ofText_spec {s : Text} {date : Loose} (h : ofText? s = some date) :
    date.year ≠ [] ∧ (∀ c ∈ date.year, isDigit c = true) ∧
      ∀ zone ∈ date.zone, ∃ start rest, zone? start = some (zone, rest) := by
  unfold ofText? at h
  obtain ⟨⟨day, s1⟩, -, h⟩ := Option.bind_eq_some_iff.mp h
  obtain ⟨s2, -, h⟩ := Option.bind_eq_some_iff.mp h
  obtain ⟨⟨month, s3⟩, -, h⟩ := Option.bind_eq_some_iff.mp h
  obtain ⟨s4, -, h⟩ := Option.bind_eq_some_iff.mp h
  obtain ⟨⟨year, s5⟩, hyear, h⟩ := Option.bind_eq_some_iff.mp h
  obtain ⟨hne, hdigits⟩ := run_spec hyear
  simp only at h
  cases hzone : zone? (((clock? s5).getD (⟨0, 0, 0⟩, s5)).2.dropWhile isSpace) with
  | none =>
      simp only [hzone] at h
      split at h
      next =>
        cases h
        exact ⟨hne, hdigits, nofun⟩
      next => cases h
  | some zone =>
      obtain ⟨zone, rest⟩ := zone
      simp only [hzone] at h
      split at h
      next =>
        cases h
        refine ⟨hne, hdigits, fun name hname => ?_⟩
        cases hname
        exact ⟨_, rest, hzone⟩
      next => cases h

theorem year_over {date : Loose} (h : ∀ c ∈ date.year, isDigit c = true) :
    date.year.Over Text.decimalDigits := by
  intro c hc
  have hdigit := h c hc
  have hascii : c.toNat < 128 := by
    simp only [isDigit, Bool.and_eq_true, decide_eq_true_eq] at hdigit
    have hle : c.toNat ≤ 57 := hdigit.2
    omega
  exact forall_ascii (P := fun c => isDigit c = true → c ∈ Text.decimalDigits) (by decide) hascii
    hdigit

/-! ### Zones -/

theorem length_sign_le (s : Text) : (Integer.sign s).2.length ≤ s.length := by
  unfold Integer.sign
  split <;> simp

theorem offset_bound {zone : Text} {ahead : Int} (h : offset? zone = some ahead)
    (hlength : (Integer.sign (zone.map Char.toUpper)).2.length ≤ 4) : ahead.natAbs ≤ 10 ^ 6 := by
  unfold offset? at h
  simp only at h
  split at h
  next =>
    cases h
    decide
  next =>
    split at h
    next =>
      cases h
      generalize (Integer.sign (zone.map Char.toUpper)).2 = digits at *
      generalize (Integer.sign (zone.map Char.toUpper)).1 = negative
      have hhours := number_lt (digits.take (if digits.length % 2 = 0 then 2 else 1))
      have hminutes := number_lt (digits.drop (if digits.length % 2 = 0 then 2 else 1))
      have hhours' : 10 ^ (digits.take (if digits.length % 2 = 0 then 2 else 1)).length ≤ 10 ^ 2 :=
        Nat.pow_le_pow_right (by omega) (by rw [List.length_take]; split <;> omega)
      have hminutes' :
          10 ^ (digits.drop (if digits.length % 2 = 0 then 2 else 1)).length ≤ 10 ^ 2 :=
        Nat.pow_le_pow_right (by omega) (by rw [List.length_drop]; split <;> omega)
      unfold Integer.withSign
      split <;> omega
    next => cases h

theorem upper_alpha {c : Char} (h : c.isAlpha = true) :
    isDigit c.toUpper = false ∧ c.toUpper ≠ '-' ∧ c.toUpper ≠ '+' := by
  have hascii : c.toNat < 128 := ascii_of_isAlphanum ((Bool.or_eq_true _ _).mpr (Or.inl h))
  exact forall_ascii (P := fun c => c.isAlpha = true →
    isDigit c.toUpper = false ∧ c.toUpper ≠ '-' ∧ c.toUpper ≠ '+') (by decide) hascii h

theorem name_bound {zone : Text} {ahead : Int} (hne : zone ≠ [])
    (halpha : ∀ c ∈ zone, c.isAlpha = true) (h : offset? zone = some ahead) :
    ahead.natAbs ≤ 10 ^ 6 := by
  obtain ⟨c, rest, rfl⟩ := List.exists_cons_of_ne_nil hne
  obtain ⟨hdigit, hminus, hplus⟩ := upper_alpha (halpha c List.mem_cons_self)
  have hsign : Integer.sign ((c :: rest).map Char.toUpper) =
      (false, (c :: rest).map Char.toUpper) := by
    rw [List.map_cons, Integer.sign]
    · exact fun _ heq => hminus (List.cons.inj heq).1
    · exact fun _ heq => hplus (List.cons.inj heq).1
  unfold offset? at h
  simp only [hsign] at h
  split at h
  next =>
    cases h
    decide
  next =>
    rw [List.map_cons, List.all_cons, hdigit, Bool.false_and, if_neg (by decide)] at h
    cases h

/-- A zone that is read is an offset of at most four digits or a name. -/
theorem zone_bound {start zone rest : Text} {ahead : Int} (hzone : zone? start = some (zone, rest))
    (h : offset? zone = some ahead) : ahead.natAbs ≤ 10 ^ 6 := by
  unfold zone? at hzone
  split at hzone
  next => cases hzone
  next c after =>
    split at hzone
    next hsign =>
      obtain ⟨⟨run, rest'⟩, hrun, heq⟩ := Option.map_eq_some_iff.mp hzone
      cases heq
      refine offset_bound h ?_
      have hlength := digitRun_length hrun
      rcases hsign with rfl | rfl
      · exact (List.length_map _).trans_le hlength
      · exact (List.length_map _).trans_le hlength
    next =>
      split at hzone
      next =>
        have hlength := digitRun_length hzone
        refine offset_bound h ((length_sign_le _).trans ?_)
        rwa [List.length_map]
      next =>
        split at hzone
        next => cases hzone
        next =>
          obtain ⟨hne, halpha⟩ := run_spec hzone
          exact name_bound hne halpha h

theorem time_bound {now time : Int} {s : Text} {date : Loose} (hform : ofText? s = some date)
    (h : date.time now = .ok (some time)) : time.natAbs ≤ 10 ^ 13 := by
  obtain ⟨-, -, hzones⟩ := ofText_spec hform
  unfold Loose.time at h
  split at h
  next => cases h
  next year hyear =>
    split at h
    next => cases h
    next =>
      split at h
      next => cases h
      next month hmonth =>
        obtain ⟨full, -, h⟩ := ok_of_bind h
        obtain ⟨found, hmoment, h⟩ := ok_of_bind h
        cases found with
        | none => cases h
        | some found =>
            obtain ⟨ahead, hahead, rfl⟩ := Option.map_eq_some_iff.mp (Except.ok.inj h)
            have hfound := moment_bound hmoment
            have hzone : ahead.natAbs ≤ 10 ^ 6 := by
              cases hdate : date.zone with
              | none =>
                  rw [hdate] at hahead
                  cases hahead
                  decide
              | some zone =>
                  obtain ⟨start, rest, hread⟩ := hzones zone hdate
                  rw [hdate] at hahead
                  exact zone_bound hread hahead
            omega

end Loose

/-! ## Both forms -/

/-- A text that fails as a date. -/
inductive Refused (now : Int) (s : Text) : Prop
  | unknownMonth (date : Strict) (form : Strict.ofText? s = some date)
    (unknown : monthOfName? (date.month.map Char.toLower) = none)
  | loose (date : Loose) (not_strict : Strict.ofText? s = none)
    (form : Loose.ofText? (Loose.dropWeekday (s.dropWhile Text.isBlank)) = some date)
    (refused : date.Refused now)

theorem parse_fails_iff {now : Int} {s : Text} : Fails (parse now s) ↔ Refused now s := by
  unfold parse
  split
  next date hstrict =>
    rw [Strict.time_fails_iff (Strict.year_lt hstrict)]
    constructor
    · exact .unknownMonth date hstrict
    · rintro (⟨date', form, unknown⟩ | ⟨date', not_strict⟩)
      · cases hstrict.symm.trans form
        exact unknown
      · cases hstrict.symm.trans not_strict
  next hstrict =>
    split
    next date hloose =>
      obtain ⟨hne, hdigits, -⟩ := Loose.ofText_spec hloose
      rw [Loose.time_fails_iff hne (Loose.year_over hdigits)]
      constructor
      · exact .loose date hstrict hloose
      · rintro (⟨date', form⟩ | ⟨date', -, form, refused⟩)
        · cases hstrict.symm.trans form
        · cases hloose.symm.trans form
          exact refused
    next hloose =>
      refine iff_of_false (not_fails_ok _) ?_
      rintro (⟨date', form⟩ | ⟨date', -, form⟩)
      · cases hstrict.symm.trans form
      · cases hloose.symm.trans form

/-- A moment that is read is held as a double. -/
theorem parse_bound {now time : Int} {s : Text} (h : parse now s = .ok (some time)) :
    time.natAbs ≤ 10 ^ 13 := by
  unfold parse at h
  split at h
  next date hstrict =>
    unfold Strict.time at h
    simp only at h
    split at h
    next => cases h
    next month hmonth => exact (moment_bound h).trans (by omega)
  next =>
    split at h
    next date hloose => exact Loose.time_bound hloose h
    next => cases h

end CookieDate

end HttpFetch
