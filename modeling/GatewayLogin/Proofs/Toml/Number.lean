/-
Integers that are written are read back.

An integer at the end of a line is no date, for no mark of a date or a time stands after its digits,
no float, for it has neither fraction nor exponent, and in no base but ten, for no zero leads its
digits.  So the scanner takes exactly this integer off the front (`scanNumber_integer`).
-/
import GatewayLogin.Toml.Codec
import Mathlib.Tactic.SplitIfs

namespace GatewayLogin.Toml

/-- The decimal digits of a number. -/
abbrev decimalDigits (n : Nat) : List Char :=
  Nat.toDigits 10 n

theorem isDigit_of_mem_decimalDigits {n : Nat} : ∀ c ∈ decimalDigits n, c.isDigit = true :=
  fun _ => Nat.isDigit_of_mem_toDigits (by decide) (by decide)

theorem decimalValue_decimalDigits (n : Nat) : decimalValue (decimalDigits n) = n := by
  have hfold : ∀ (ds : List Char) (m : Nat),
      ds.foldl (fun n c => n * 10 + (c.toNat - 48)) m = Nat.ofDigitChars 10 ds m := by
    intro ds m
    simp only [Nat.ofDigitChars, Nat.mul_comm]
    rfl
  rw [decimalValue, hfold]
  exact Nat.ofDigitChars_ten_toDigits

/-- No zero leads, but in the single digit of zero. -/
theorem decimalDigits_cases (n : Nat) :
    decimalDigits n = ['0'] ∨ ∃ c ds, decimalDigits n = c :: ds ∧ c ≠ '0' := by
  induction n using Nat.strongRecOn with
  | ind n ih =>
    by_cases hn : n < 10
    · rw [decimalDigits, Nat.toDigits_of_lt_base hn]
      by_cases hzero : n.digitChar = '0'
      · exact .inl (by rw [hzero])
      · exact .inr ⟨_, _, rfl, hzero⟩
    · rw [decimalDigits, Nat.toDigits_of_base_le (by decide) (by omega)]
      rcases ih (n / 10) (by omega) with hzero | ⟨c, ds, hdigits, hc⟩
      · have := decimalValue_decimalDigits (n / 10)
        rw [hzero] at this
        simp [decimalValue] at this
        omega
      · rw [decimalDigits] at hdigits
        exact .inr ⟨c, ds ++ [(n % 10).digitChar], by rw [hdigits]; rfl, hc⟩

theorem moreDigits_append {ds : List Char} (rest : List Char)
    (h : ∀ c ∈ ds, c.isDigit = true) :
    moreDigits Char.isDigit (ds ++ '\n' :: rest) = (ds, '\n' :: rest) := by
  induction ds with
  | nil => simp [moreDigits]
  | cons c ds ih =>
    have hc := h c (by simp)
    have hne : c ≠ '_' := by
      rintro rfl
      exact absurd hc (by decide)
    rw [List.cons_append, moreDigits, if_pos hc, ih fun d hd => h d (by simp [hd])]
    · rfl
    · intro d more hd
      exact absurd hd hne

theorem plainDigits_append (n : Nat) (rest : List Char) :
    plainDigits (decimalDigits n ++ '\n' :: rest) = some (decimalDigits n, '\n' :: rest) := by
  rcases decimalDigits_cases n with hzero | ⟨c, ds, hdigits, hc⟩
  · rw [hzero]
    rfl
  · have hall := isDigit_of_mem_decimalDigits (n := n)
    rw [hdigits] at hall ⊢
    rw [List.cons_append, plainDigits, digits, if_pos (hall c (by simp)),
      moreDigits_append rest fun d hd => hall d (by simp [hd])]
    · rfl
    · intro more h
      exact hc (List.cons.inj h).1

/-- What is written of an integer: perhaps a minus, then its digits. -/
def integerChars (negative : Bool) (n : Nat) : List Char :=
  (if negative then ['-'] else []) ++ decimalDigits n

theorem toList_toString_int (n : Int) :
    (toString n).toList = integerChars (n < 0) n.natAbs := by
  rw [Int.toString_eq_repr, Int.repr_eq_if]
  by_cases h : 0 ≤ n
  · have hnot : ¬ n < 0 := by omega
    have habs : n.toNat = n.natAbs := by omega
    simp [integerChars, h, hnot, habs, Nat.toList_repr]
  · have hneg : n < 0 := by omega
    have habs : (-n).toNat = n.natAbs := by omega
    simp [integerChars, h, hneg, habs, Nat.toList_repr]

theorem decimalDigits_eq_cons (n : Nat) :
    ∃ c ds, decimalDigits n = c :: ds ∧ c.isDigit = true := by
  obtain ⟨c, ds, hdigits⟩ := List.exists_cons_of_ne_nil (Nat.toDigits_ne_nil (n := n) (b := 10))
  exact ⟨c, ds, hdigits, isDigit_of_mem_decimalDigits (n := n) c (by simp [hdigits])⟩

theorem sign_of_isDigit {c : Char} (h : c.isDigit = true) (rest : List Char) :
    sign (c :: rest) = (false, c :: rest) := by
  unfold sign
  split <;> simp_all

theorem sign_integerChars (negative : Bool) (n : Nat) (rest : List Char) :
    sign (integerChars negative n ++ rest) = (negative, decimalDigits n ++ rest) := by
  cases negative with
  | true => rfl
  | false =>
    obtain ⟨c, ds, hdigits, hc⟩ := decimalDigits_eq_cons n
    simp [integerChars, hdigits, sign_of_isDigit hc]

theorem decimal_append (negative : Bool) (n : Nat) (rest : List Char) :
    decimal (integerChars negative n ++ '\n' :: rest)
      = some ((negative, decimalDigits n), '\n' :: rest) := by
  simp [decimal, sign_integerChars, plainDigits_append]

/-- What a scanner for a number of fixed length leaves of a line of digits is one. -/
theorem fixedDigits_append (ds : List Char) {rest after : List Char} {count n : Nat}
    (h : fixedDigits count (ds ++ '\n' :: rest) = some (n, after)) :
    after = ds.drop count ++ '\n' :: rest := by
  simp only [fixedDigits] at h
  split_ifs at h with hall
  simp only [Bool.and_eq_true, decide_eq_true_eq, List.all_eq_true] at hall
  cases h
  by_cases hcount : count ≤ ds.length
  · exact List.drop_append_of_le_length hcount
  · have hnewline : '\n' ∈ (ds ++ '\n' :: rest).take count := by
      rw [List.take_append, List.mem_append]
      obtain ⟨k, hk⟩ : ∃ k, count - ds.length = k + 1 := ⟨count - ds.length - 1, by omega⟩
      simp [hk]
    exact absurd (hall.2 _ hnewline) (by decide)

theorem exactly_digits {mark : Char} {ds : List Char} (hmark : mark.isDigit = false)
    (hline : mark ≠ '\n') (h : ∀ c ∈ ds, c.isDigit = true) (rest : List Char) :
    exactly mark (ds ++ '\n' :: rest) = none := by
  cases ds with
  | nil => simp [exactly, hline.symm]
  | cons c ds =>
    have hne : c ≠ mark := by
      rintro rfl
      simp [h c (by simp)] at hmark
    simp [exactly, hne]

theorem fixedDigits_minus (count : Nat) (rest : List Char) :
    fixedDigits (count + 1) ('-' :: rest) = none := by
  simp [fixedDigits]

/-- What follows a number of fixed length inside an integer is no mark. -/
theorem exactly_of_fixedDigits (mark : Char) (hmark : mark.isDigit = false)
    (hline : mark ≠ '\n') {negative : Bool} {n count value : Nat} {rest after : List Char}
    (h : fixedDigits (count + 1) (integerChars negative n ++ '\n' :: rest) = some (value, after)) :
    exactly mark after = none := by
  cases negative with
  | true =>
    rw [integerChars, if_pos rfl, List.singleton_append, List.cons_append, fixedDigits_minus] at h
    cases h
  | false =>
    rw [fixedDigits_append (decimalDigits n) h]
    exact exactly_digits hmark hline
      (fun c hc => isDigit_of_mem_decimalDigits c (List.mem_of_mem_drop hc)) rest

/-- An integer is neither a date nor a time. -/
theorem scanDateTime_integer (negative : Bool) (n : Nat) (rest : List Char) :
    scanDateTime (integerChars negative n ++ '\n' :: rest) = none := by
  have hdate : date? (integerChars negative n ++ '\n' :: rest) = none := by
    unfold date?
    cases hyear : fixedDigits 4 (integerChars negative n ++ '\n' :: rest) with
    | none => rfl
    | some found => simp [exactly_of_fixedDigits '-' (by decide) (by decide) hyear]
  have htime : time? (integerChars negative n ++ '\n' :: rest) = none := by
    unfold time? twoDigits
    cases hhour : fixedDigits 2 (integerChars negative n ++ '\n' :: rest) with
    | none => rfl
    | some found => simp [exactly_of_fixedDigits ':' (by decide) (by decide) hhour]
  simp [scanDateTime, hdate, htime]

theorem decimalFloat_integer (negative : Bool) (n : Nat) (rest : List Char) :
    decimalFloat (integerChars negative n ++ '\n' :: rest) = none := by
  simp [decimalFloat, decimal_append, fraction, exponent]

theorem specialFloat_integer (negative : Bool) (n : Nat) (rest : List Char) :
    specialFloat (integerChars negative n ++ '\n' :: rest) = none := by
  obtain ⟨c, ds, hdigits, hc⟩ := decimalDigits_eq_cons n
  have hletters : 'i' ≠ c ∧ 'n' ≠ c := by
    refine ⟨?_, ?_⟩ <;> rintro rfl <;> exact absurd hc (by decide)
  simp [specialFloat, sign_integerChars, hdigits, List.isPrefixOf, hletters]

/-- A zero in front of an integer is all of it, so no mark of another base follows. -/
theorem integerChars_second {negative : Bool} {n : Nat} {rest more : List Char} {c : Char}
    (h : integerChars negative n ++ '\n' :: rest = '0' :: c :: more) : c = '\n' := by
  cases negative with
  | true => cases h
  | false =>
    rcases decimalDigits_cases n with hzero | ⟨d, ds, hdigits, hd⟩
    · have hsecond : '\n' = c ∧ rest = more := by simpa [integerChars, hzero] using h
      exact hsecond.1.symm
    · simp_all [integerChars]

theorem scanInteger_integer (negative : Bool) (n : Nat) (rest : List Char) :
    scanInteger (integerChars negative n ++ '\n' :: rest)
      = (fitInteger? negative n).map fun value => (value, '\n' :: rest) := by
  unfold scanInteger
  split
  · rename_i h
    cases integerChars_second h
  · rename_i h
    cases integerChars_second h
  · rename_i h
    cases integerChars_second h
  · rw [decimal_append]
    simp only [Option.bind_eq_bind, Option.bind_some, decimalValue_decimalDigits]
    cases fitInteger? negative n <;> rfl

theorem scanNumber_integer {n : Int} (h : (Scalar.integer n).fits = true) (rest : List Char) :
    scanNumber ((toString n).toList ++ '\n' :: rest)
      = some (.scalar (.integer n), '\n' :: rest) := by
  have hvalue : fitInteger? (n < 0) n.natAbs = some (.scalar (.integer n)) := by
    simp only [Scalar.fits, Bool.and_eq_true, decide_eq_true_eq] at h
    by_cases hneg : n < 0
    · have habs : -(n.natAbs : Int) = n := by omega
      have hlimit : n.natAbs ≤ integerLimit := by omega
      rw [fitInteger?, decide_eq_true hneg, if_pos rfl, if_pos hlimit, habs]
    · have habs : (n.natAbs : Int) = n := by omega
      have hlimit : n.natAbs < integerLimit := by omega
      rw [fitInteger?, decide_eq_false hneg, if_neg Bool.false_ne_true, if_pos hlimit, habs]
  rw [toList_toString_int, scanNumber, scanDateTime_integer, decimalFloat_integer,
    specialFloat_integer, scanInteger_integer, hvalue]
  rfl

end GatewayLogin.Toml
