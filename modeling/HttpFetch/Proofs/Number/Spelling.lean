import HttpFetch.Proofs.Number.Hexadecimal

/-!
# How a hexadecimal integer may be spelled

An integer is read from more texts than the digits that write it: a sign may stand in front, then
the mark of the notation, and single underscores between the digits.  `SpelledHex` lists these
spellings without mentioning the reader, and `Integer.parseHex?_eq_some_iff` says that the reader
takes them, in white space, and nothing else.
-/

namespace HttpFetch

/-! ## Trimming, seen from outside -/

namespace Text

theorem exists_of_trimOf (drop : Char → Bool) (s : Text) :
    ∃ left right, s = left ++ trimOf drop s ++ right ∧
      (∀ c ∈ left, drop c = true) ∧ ∀ c ∈ right, drop c = true := by
  have hright : trimLeft drop s =
      trimOf drop s ++ ((trimLeft drop s).reverse.takeWhile drop).reverse := by
    rw [trimOf, trimRight, ← List.reverse_append, List.takeWhile_append_dropWhile,
      List.reverse_reverse]
  refine ⟨s.takeWhile drop, ((trimLeft drop s).reverse.takeWhile drop).reverse, ?_, ?_, ?_⟩
  · rw [List.append_assoc, ← hright, trimLeft, List.takeWhile_append_dropWhile]
  · exact fun c hc => List.mem_takeWhile_imp hc
  · exact fun c hc => List.mem_takeWhile_imp (List.mem_reverse.mp hc)

theorem trimOf_surrounded {drop : Char → Bool} {s : Text} (hs : ∀ c ∈ s, drop c = false)
    (hne : s ≠ []) {left right : Text} (hleft : ∀ c ∈ left, drop c = true)
    (hright : ∀ c ∈ right, drop c = true) : trimOf drop (left ++ s ++ right) = s := by
  rw [List.append_assoc, trimOf_append_left hleft, trimOf_append hs hne hright]

theorem digitChar_cases (d : Fin 16) :
    digitChar d ∈ hexDigits ∧ (digitChar d).toUpper ∈ hexDigits := by
  revert d
  decide

end Text

/-! ## Digits -/

namespace Digit

/-- The digit of a number below sixteen, in either case. -/
def IsHex (c : Char) (d : Nat) : Prop :=
  d < 16 ∧ (c = Text.digitChar d ∨ c = (Text.digitChar d).toUpper)

instance (c : Char) (d : Nat) : Decidable (IsHex c d) := inferInstanceAs (Decidable (_ ∧ _))

/-- A text that writes digits one after the other, with single underscores between some. -/
inductive Spells (IsDigit : Char → Nat → Prop) : Text → List Nat → Prop
  | one {c : Char} {d : Nat} (hdigit : IsDigit c d) : Spells IsDigit [c] [d]
  | next {c : Char} {d : Nat} {written : Text} {digits : List Nat} (hdigit : IsDigit c d)
      (hrest : Spells IsDigit written digits) : Spells IsDigit (c :: written) (d :: digits)
  | apart {c : Char} {d : Nat} {written : Text} {digits : List Nat} (hdigit : IsDigit c d)
      (hrest : Spells IsDigit written digits) :
      Spells IsDigit (c :: '_' :: written) (d :: digits)

namespace Spells

variable {IsDigit IsDigit' : Char → Nat → Prop} {written : Text} {digits : List Nat}

theorem head_isDigit (h : Spells IsDigit written digits) :
    ∃ c rest d, written = c :: rest ∧ IsDigit c d := by
  cases h with
  | one hdigit => exact ⟨_, _, _, rfl, hdigit⟩
  | next hdigit hrest => exact ⟨_, _, _, rfl, hdigit⟩
  | apart hdigit hrest => exact ⟨_, _, _, rfl, hdigit⟩

theorem mem_cases (h : Spells IsDigit written digits) :
    ∀ c ∈ written, c = '_' ∨ ∃ d, IsDigit c d := by
  induction h with
  | one hdigit => simpa using Or.inr ⟨_, hdigit⟩
  | next hdigit hrest ih => simpa using ⟨Or.inr ⟨_, hdigit⟩, ih⟩
  | apart hdigit hrest ih => simpa using ⟨Or.inr ⟨_, hdigit⟩, ih⟩

theorem mono (h : Spells IsDigit written digits)
    (hmono : ∀ c ∈ written, ∀ d, IsDigit c d → IsDigit' c d) : Spells IsDigit' written digits := by
  induction h with
  | one hdigit => exact .one (hmono _ List.mem_cons_self _ hdigit)
  | next hdigit hrest ih =>
      rw [List.forall_mem_cons] at hmono
      exact .next (hmono.1 _ hdigit) (ih hmono.2)
  | apart hdigit hrest ih =>
      rw [List.forall_mem_cons, List.forall_mem_cons] at hmono
      exact .apart (hmono.1 _ hdigit) (ih hmono.2.2)

end Spells

/-! ## The reader of digits -/

section

variable {value? : Char → Option Nat}

/-- Where no two underscores meet and none stands last, digits follow at the front and behind an
underscore there. -/
theorem spells_of_separated (hunderscore : value? '_' = none) {s : Text}
    (hseparated : separated s = true) (hrun : ∀ c ∈ s, c = '_' ∨ (value? c).isSome = true) :
    (s ≠ [] → s.head? ≠ some '_' →
        Spells (fun c d => value? c = some d) s (s.filterMap value?)) ∧
      ∀ rest, s = '_' :: rest →
        Spells (fun c d => value? c = some d) rest (rest.filterMap value?) := by
  fun_induction separated s with
  | case1 => exact ⟨fun hne => absurd rfl hne, fun rest hrest => by cases hrest⟩
  | case2 => cases hseparated
  | case3 => cases hseparated
  | case4 c s hlast hmeet ih =>
      rw [List.forall_mem_cons] at hrun
      obtain ⟨hdigits, hbehind⟩ := ih hseparated hrun.2
      constructor
      · intro _ hhead
        have hc : c ≠ '_' := fun h => hhead (congrArg some h)
        obtain ⟨d, hd⟩ := Option.isSome_iff_exists.mp (hrun.1.resolve_left hc)
        rw [List.filterMap_cons_some hd]
        cases s with
        | nil => exact .one hd
        | cons next s =>
            by_cases hnext : next = '_'
            · subst hnext
              rw [List.filterMap_cons_none hunderscore]
              exact .apart hd (hbehind s rfl)
            · exact .next hd (hdigits (List.cons_ne_nil _ _) (by simpa using hnext))
      · intro rest hrest
        obtain ⟨rfl, rfl⟩ := List.cons.inj hrest
        apply hdigits
        · exact fun hnil => hlast rfl hnil
        · intro hhead
          obtain ⟨more, rfl⟩ := List.head?_eq_some_iff.mp hhead
          exact hmeet more rfl rfl

theorem Spells.separated (hunderscore : value? '_' = none) {s : Text} {digits : List Nat}
    (h : Spells (fun c d => value? c = some d) s digits) : Digit.separated s = true := by
  have hdigit : ∀ {c d}, value? c = some d → c ≠ '_' := by
    rintro c d hd rfl
    cases hunderscore.symm.trans hd
  have hcons : ∀ {c s}, c ≠ '_' → Digit.separated (c :: s) = Digit.separated s := by
    intro c s hc
    rw [Digit.separated]
    · exact fun h _ => hc h
    · exact fun _ h _ => hc h
  induction h with
  | one hd => exact hcons (hdigit hd)
  | next hd hrest ih => exact (hcons (hdigit hd)).trans ih
  | apart hd hrest ih =>
      obtain ⟨c, rest, d, rfl, hfirst⟩ := hrest.head_isDigit
      rw [hcons (hdigit hd), Digit.separated]
      · exact ih
      · exact fun _ h => List.cons_ne_nil _ _ h
      · exact fun _ _ h => hdigit hfirst (List.cons.inj h).1

theorem Spells.filterMap_eq (hunderscore : value? '_' = none) {s : Text} {digits : List Nat}
    (h : Spells (fun c d => value? c = some d) s digits) : s.filterMap value? = digits := by
  induction h with
  | one hd => rw [List.filterMap_cons_some hd, List.filterMap_nil]
  | next hd hrest ih => rw [List.filterMap_cons_some hd, ih]
  | apart hd hrest ih =>
      rw [List.filterMap_cons_some hd, List.filterMap_cons_none hunderscore, ih]

/-- All of a text is read as digits exactly if it spells them. -/
theorem span_eq_some_iff (hunderscore : value? '_' = none) {s : Text} {digits : List Nat} :
    span value? s = some (digits, []) ↔ Spells (fun c d => value? c = some d) s digits := by
  constructor
  · intro h
    unfold span at h
    dsimp only at h
    split at h
    next => cases h
    next hrun =>
      simp only [Option.some.injEq, Prod.mk.injEq, List.dropWhile_eq_nil_iff] at h
      obtain ⟨hdigits, hall⟩ := h
      rw [List.takeWhile_eq_self_iff.mpr hall] at hrun hdigits
      simp only [Bool.or_eq_true, List.isEmpty_iff, beq_iff_eq, Bool.not_eq_true', not_or,
        Bool.not_eq_false] at hrun
      rw [← hdigits]
      refine (spells_of_separated hunderscore hrun.2 fun c hc => ?_).1 hrun.1.1 hrun.1.2
      simpa [or_comm] using hall c hc
  · intro h
    obtain ⟨c, rest, d, hs, hd⟩ := h.head_isDigit
    have hall : ∀ c ∈ s, ((value? c).isSome || c == '_') = true := by
      intro c hc
      rcases h.mem_cases c hc with rfl | ⟨d, hd⟩
      · simp
      · simp [hd]
    have hhead : c ≠ '_' := by
      rintro rfl
      cases hunderscore.symm.trans hd
    unfold span
    simp only [List.takeWhile_eq_self_iff.mpr hall, List.dropWhile_eq_nil_iff.mpr hall,
      h.separated hunderscore, h.filterMap_eq hunderscore]
    simp [hs, hhead]

end

theorem hex_eq_some_iff {c : Char} (hc : c.toNat < 256) {d : Nat} :
    hex? c = some d ↔ IsHex c d := by
  constructor
  · intro h
    have hread : ∀ n : Fin 256, ∀ d ∈ hex? (Char.ofNat n), IsHex (Char.ofNat n) d := by
      decide +kernel
    have hchar := hread ⟨c.toNat, hc⟩ d
    rw [Char.ofNat_toNat] at hchar
    exact hchar h
  · rintro ⟨hd, hcase⟩
    have hupper : ∀ d : Fin 16, hex? (Text.digitChar d).toUpper = some d.val := by decide
    rcases hcase with rfl | rfl
    · exact Text.hex_digitChar ⟨d, hd⟩
    · exact hupper ⟨d, hd⟩

theorem IsHex.mem_hexDigits {c : Char} {d : Nat} (h : IsHex c d) : c ∈ Text.hexDigits := by
  obtain ⟨hd, hcase⟩ := h
  obtain ⟨hlower, hupper⟩ := Text.digitChar_cases ⟨d, hd⟩
  rcases hcase with rfl | rfl
  · exact hlower
  · exact hupper

theorem Spells.overHexDigits {written : Text} {digits : List Nat}
    (h : Spells IsHex written digits) : written.Over (Text.hexDigits ++ ['_']) := by
  intro c hc
  rcases h.mem_cases c hc with rfl | ⟨d, hd⟩
  · decide
  · exact List.mem_append_left _ hd.mem_hexDigits

end Digit

/-! ## The reader of integers -/

namespace Integer

/-- The signs, each with whether the number is negative. -/
def signs : List (Text × Bool) := [([], false), (['+'], false), (['-'], true)]

/-- The marks of hexadecimal notation. -/
def hexMarks : List Text := ["", "0x", "0X", "0x_", "0X_"].map String.toList

/-- An integer spelled in hexadecimal: a sign and a mark, both optional, and digits. -/
inductive SpelledHex : Text → Int → Prop
  | intro {sign mark written : Text} {negative : Bool} {digits : List Nat}
      (hsign : (sign, negative) ∈ signs) (hmark : mark ∈ hexMarks)
      (hdigits : Digit.Spells Digit.IsHex written digits) :
      SpelledHex (sign ++ mark ++ written) (withSign negative (Digit.value 16 digits))

/-- The characters of a spelling. -/
def hexSpelling : Text := Text.hexDigits ++ "+-xX_".toList

namespace SpelledHex

variable {s : Text} {n : Int}

theorem overSpelling (h : SpelledHex s n) : s.Over hexSpelling := by
  obtain ⟨hsign, hmark, hdigits⟩ := h
  have hsigns : ∀ signed ∈ signs, signed.1.Over hexSpelling := by decide
  have hmarks : ∀ mark ∈ hexMarks, mark.Over hexSpelling := by decide
  have hchars : Text.Over (Text.hexDigits ++ ['_']) hexSpelling := by decide
  intro c hc
  rw [List.append_assoc, List.mem_append, List.mem_append] at hc
  rcases hc with hc | hc | hc
  · exact hsigns _ hsign c hc
  · exact hmarks _ hmark c hc
  · exact hchars c (hdigits.overHexDigits c hc)

theorem ne_nil (h : SpelledHex s n) : s ≠ [] := by
  obtain ⟨hsign, hmark, hdigits⟩ := h
  obtain ⟨c, rest, d, hwritten, -⟩ := hdigits.head_isDigit
  simp [hwritten]

end SpelledHex

theorem sign_eq {s body : Text} {negative : Bool} (h : sign s = (negative, body)) :
    ∃ signed, (signed, negative) ∈ signs ∧ s = signed ++ body := by
  unfold sign at h
  split at h
  next =>
    cases h
    exact ⟨['-'], by decide, rfl⟩
  next =>
    cases h
    exact ⟨['+'], by decide, rfl⟩
  next =>
    cases h
    exact ⟨[], by decide, rfl⟩

theorem sign_append {signed body : Text} {negative : Bool} (hsign : (signed, negative) ∈ signs)
    (hminus : '-' ∉ body) (hplus : '+' ∉ body) : sign (signed ++ body) = (negative, body) := by
  simp only [signs, List.mem_cons, List.not_mem_nil, or_false, Prod.mk.injEq] at hsign
  rcases hsign with ⟨rfl, rfl⟩ | ⟨rfl, rfl⟩ | ⟨rfl, rfl⟩
  · exact sign_of_notMem hminus hplus
  · rfl
  · rfl

theorem exists_mark (s : Text) : ∃ mark ∈ hexMarks, s = mark ++ dropHexMark s := by
  unfold dropHexMark
  split
  next x rest =>
    split
    next hx =>
      split
      next rest =>
        rcases hx with rfl | rfl
        · exact ⟨"0x_".toList, by decide, rfl⟩
        · exact ⟨"0X_".toList, by decide, rfl⟩
      next =>
        rcases hx with rfl | rfl
        · exact ⟨"0x".toList, by decide, rfl⟩
        · exact ⟨"0X".toList, by decide, rfl⟩
    next => exact ⟨[], by decide, rfl⟩
  next => exact ⟨[], by decide, rfl⟩

theorem dropHexMark_append {mark written : Text} (hmark : mark ∈ hexMarks)
    (hover : written.Over (Text.hexDigits ++ ['_'])) (hhead : written.head? ≠ some '_') :
    dropHexMark (mark ++ written) = written := by
  have hplain : dropHexMark written = written :=
    dropHexMark_of_notMem (hover.notMem (by decide)) (hover.notMem (by decide))
  simp only [hexMarks, List.map_cons, List.map_nil, List.mem_cons, List.not_mem_nil,
    or_false] at hmark
  cases written with
  | nil => rcases hmark with rfl | rfl | rfl | rfl | rfl <;> rfl
  | cons c written =>
      have hc : c ≠ '_' := by simpa using hhead
      rcases hmark with rfl | rfl | rfl | rfl | rfl
      · exact hplain
      · simp [dropHexMark, hc]
      · simp [dropHexMark, hc]
      · rfl
      · rfl

/-- The reader takes the spellings of an integer, in white space, and nothing else. -/
theorem parseHex_eq_some_iff {s : Text} (hs : ∀ c ∈ s, c.toNat < 256) {n : Int} :
    parseHex? s = some n ↔ ∃ left spelled right, s = left ++ spelled ++ right ∧
      (∀ c ∈ left, Text.isSpace c = true) ∧ (∀ c ∈ right, Text.isSpace c = true) ∧
      SpelledHex spelled n := by
  have hunderscore : Digit.hex? '_' = none := by decide
  constructor
  · intro h
    obtain ⟨left, right, hsplit, hleft, hright⟩ := Text.exists_of_trimOf Text.isSpace s
    refine ⟨left, _, right, hsplit, hleft, hright, ?_⟩
    unfold parseHex? at h
    split at h
    next negative body hsigned =>
      split at h
      next digits hspan =>
        cases h
        obtain ⟨signed, hsign, htrimmed⟩ := sign_eq hsigned
        obtain ⟨mark, hmark, hbody⟩ := exists_mark body
        have hspells := (Digit.span_eq_some_iff hunderscore).mp hspan
        rw [htrimmed] at hsplit ⊢
        rw [hbody, ← List.append_assoc] at hsplit ⊢
        refine .intro hsign hmark (hspells.mono fun c hc d hd => ?_)
        exact (Digit.hex_eq_some_iff (hs c (by simp [hsplit, hc]))).mp hd
      next => cases h
  · rintro ⟨left, spelled, right, rfl, hleft, hright, hspelled⟩
    have hspaces := hspelled.overSpelling.forall_mem (P := fun c => Text.isSpace c = false)
      (by decide)
    unfold parseHex?
    rw [Text.trimOf_surrounded hspaces hspelled.ne_nil hleft hright]
    cases hspelled with
    | @intro signed mark written negative digits hsign hmark hdigits =>
        have hover := hdigits.overHexDigits
        obtain ⟨c, rest, d, hwritten, hfirst⟩ := hdigits.head_isDigit
        have hhead : written.head? ≠ some '_' := by
          rw [hwritten, List.head?_cons, ne_eq, Option.some.injEq]
          rintro rfl
          exact absurd hfirst.mem_hexDigits (by decide)
        have hmarks : ∀ mark ∈ hexMarks, '-' ∉ mark ∧ '+' ∉ mark := by decide
        obtain ⟨hminus, hplus⟩ := hmarks mark hmark
        have hspells := hdigits.mono fun c hc d hd =>
          (Digit.hex_eq_some_iff (hs c (by simp [hc]))).mpr hd
        rw [List.append_assoc, sign_append hsign]
        · simp only [dropHexMark_append hmark hover hhead,
            (Digit.span_eq_some_iff hunderscore).mpr hspells]
        · rw [List.mem_append, not_or]
          exact ⟨hminus, hover.notMem (by decide)⟩
        · rw [List.mem_append, not_or]
          exact ⟨hplus, hover.notMem (by decide)⟩

end Integer

end HttpFetch
