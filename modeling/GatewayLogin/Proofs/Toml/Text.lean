/-
Texts that are written are read back.

The writer puts a text in the plainest form that holds it, and the scanner takes exactly that text
off the front of what is written (`scanText_renderText`), provided that no mark follows.  Inside a
basic text every character but a quote stands for itself or is one escape.  On several lines up to
two marks in a row are content, also directly before the closing three, so three marks in a row
occur only where the text ends.
-/
import GatewayLogin.Toml.Writer
import Mathlib.Tactic.SplitIfs

namespace GatewayLogin.Toml

theorem hexDigitValue?_upperHexDigit : ∀ n < 16, hexDigitValue? (upperHexDigit n) = some n := by
  decide

theorem codePoint?_upperHexDigits {c : Char} (h : c.toNat < 256) (rest : List Char) :
    codePoint? 4 ('0' :: '0' :: upperHexDigit (c.toNat / 16 % 16) :: upperHexDigit (c.toNat % 16)
      :: rest) = some c := by
  have hhigh := hexDigitValue?_upperHexDigit (c.toNat / 16 % 16) (Nat.mod_lt _ (by decide))
  have hlow := hexDigitValue?_upperHexDigit (c.toNat % 16) (Nat.mod_lt _ (by decide))
  have hzero : hexDigitValue? '0' = some 0 := by decide
  have hvalue : c.toNat / 16 % 16 * 16 + c.toNat % 16 = c.toNat := by omega
  have hvalid : c.toNat.isValidChar := c.valid
  simp [codePoint?, hexValue?, hhigh, hlow, hzero, hvalue, hvalid]

/-- What the writer puts behind a backslash is read as one character. -/
def Escapes (body : List Char) (c : Char) : Prop :=
  ∀ rest, escape? (body ++ rest) = some (c, body.length) ∧
    newline? (skipSpaces (body ++ rest)) = none

theorem Escapes.ofMark {mark c : Char} (h : escape? [mark] = some (c, 1)) : Escapes [mark] c := by
  intro rest
  simp only [escape?] at h
  split_ifs at h with hb ht hn hf hr hq hs hu hU <;> simp at h <;> subst h <;>
    simp_all [escape?, skipSpaces, isSpace, newline?, quote]

theorem Escapes.ofCodePoint {c : Char} (h : c.toNat < 256) :
    Escapes ['u', '0', '0', upperHexDigit (c.toNat / 16 % 16), upperHexDigit (c.toNat % 16)] c := by
  intro rest
  refine ⟨?_, ?_⟩
  · simp only [List.cons_append, List.nil_append, escape?]
    rw [codePoint?_upperHexDigits h]
    simp [quote]
  · simp [skipSpaces, isSpace, newline?]

/-- A character that stands for itself in a basic text. -/
structure StandsForItself (lines : Bool) (c : Char) : Prop where
  ne_quote : c ≠ quote
  ne_backslash : c ≠ '\\'
  ne_return : c ≠ '\r'
  shown : isBasicChar c = true ∨ lines = true ∧ c = '\n'

theorem basicChar_cases (lines : Bool) {c : Char} (h : c ≠ quote) :
    (StandsForItself lines c ∧ basicChar lines c = [c]) ∨
      ∃ body, Escapes body c ∧ basicChar lines c = '\\' :: body := by
  unfold basicChar
  split_ifs with h₁ h₂ h₃ h₄ h₅ h₆ h₇ h₈
  · exact .inr ⟨_, .ofMark (by rw [h₁]; decide), rfl⟩
  · exact .inr ⟨_, .ofMark (by rw [h₂]; decide), rfl⟩
  · exact .inl ⟨⟨h, by rw [h₃]; decide, by rw [h₃]; decide, .inr ⟨h₄, h₃⟩⟩, by rw [h₃]⟩
  · exact .inr ⟨_, .ofMark (by rw [h₃]; decide), rfl⟩
  · exact .inr ⟨_, .ofMark (by rw [h₅]; decide), rfl⟩
  · exact .inr ⟨_, .ofMark (by rw [h₆]; decide), rfl⟩
  · exact .inr ⟨_, .ofMark (by rw [h₇]; decide), rfl⟩
  · have hcontrol : c.toNat < 256 := by
      simp only [needsEscape, isCommentChar] at h₈
      grind
    exact .inr ⟨_, .ofCodePoint hcontrol, rfl⟩
  · have hshown : isCommentChar c = true := by
      simp only [needsEscape] at h₈
      grind
    exact .inl ⟨⟨h, h₇, h₆, .inl (by simp [isBasicChar, hshown, h, h₇])⟩, rfl⟩

/-- The first character of a basic text: a quote that may stand as it is, another character that
stands for itself, or an escape. -/
theorem basicChars_cons_cases (lines : Bool) (run : Nat) (c : Char) (chars : List Char) :
    (c = quote ∧ lines = true ∧ run < 2 ∧
        basicChars lines run (c :: chars) = quote :: basicChars lines (run + 1) chars) ∨
      (StandsForItself lines c ∧
        basicChars lines run (c :: chars) = c :: basicChars lines 0 chars) ∨
      ∃ body, Escapes body c ∧
        basicChars lines run (c :: chars) = '\\' :: body ++ basicChars lines 0 chars := by
  by_cases hquote : c = quote
  · by_cases hfull : (if lines then 2 else 0) ≤ run
    · exact .inr (.inr ⟨[quote], by rw [hquote]; exact .ofMark (by decide),
        by simp [basicChars, hquote, hfull]⟩)
    · cases lines with
      | false => simp at hfull
      | true =>
        have hmore : ¬ 2 ≤ run := hfull
        exact .inl ⟨hquote, rfl, Nat.lt_of_not_le hmore, by simp [basicChars, hquote, hmore]⟩
  · rcases basicChar_cases lines hquote with ⟨hself, hchar⟩ | ⟨body, hescapes, hchar⟩
    · exact .inr (.inl ⟨hself, by simp [basicChars, hquote, hchar]⟩)
    · exact .inr (.inr ⟨body, hescapes, by simp [basicChars, hquote, hchar]⟩)

theorem basicBody_escape {body : List Char} {c : Char} (h : Escapes body c) (rest : List Char) :
    basicBody ('\\' :: body ++ rest) = (basicBody rest).map (prepend c) := by
  rw [List.cons_append, basicBody, (h rest).1]
  simp [quote]

theorem basicBody_char {c : Char} (h : StandsForItself false c) (rest : List Char) :
    basicBody (c :: rest) = (basicBody rest).map (prepend c) := by
  have hshown : isBasicChar c = true := by simpa using h.shown
  rw [basicBody, if_neg h.ne_quote, if_neg h.ne_backslash, if_pos hshown]

/-- Basic text on one line is read up to its closing quote. -/
theorem basicBody_basicChars (rest : List Char) (chars : List Char) :
    ∀ run, basicBody (basicChars false run chars ++ quote :: rest) = some (chars, rest) := by
  induction chars with
  | nil =>
    intro run
    rw [basicChars, List.nil_append, basicBody]
    simp
  | cons c chars ih =>
    intro run
    rcases basicChars_cons_cases false run c chars with
      ⟨-, hlines, -⟩ | ⟨hself, hchars⟩ | ⟨body, hescapes, hchars⟩
    · cases hlines
    · rw [hchars, List.cons_append, basicBody_char hself, ih]
      rfl
    · rw [hchars, List.append_assoc, basicBody_escape hescapes, ih]
      rfl

theorem literalBody_append {chars : List Char} (rest : List Char)
    (h : ∀ c ∈ chars, isLiteralChar c = true) :
    literalBody (chars ++ apostrophe :: rest) = some (chars, rest) := by
  induction chars with
  | nil => simp [literalBody]
  | cons c chars ih =>
    have hc := h c (by simp)
    have hne : c ≠ apostrophe := by simp_all [isLiteralChar]
    rw [List.cons_append, literalBody, if_neg hne, if_pos hc, ih fun d hd => h d (by simp [hd])]
    rfl

/-- How many marks a text begins with. -/
def leading (mark : Char) (chars : List Char) : Nat :=
  (chars.takeWhile (· == mark)).length

@[simp] theorem leading_nil (mark : Char) : leading mark [] = 0 := rfl

@[simp] theorem leading_cons_self (mark : Char) (chars : List Char) :
    leading mark (mark :: chars) = leading mark chars + 1 := by
  simp [leading]

theorem leading_cons_of_ne {mark c : Char} (h : c ≠ mark) (chars : List Char) :
    leading mark (c :: chars) = 0 := by
  simp [leading, h]

/-- Three marks close a text of which at most two can be content at its end. -/
theorem closes_append {mark : Char} {chars rest : List Char} (hlead : leading mark chars ≤ 2)
    (hrest : rest.head? ≠ some mark)
    (h : closes mark (chars ++ (List.replicate 3 mark ++ rest)) = true) :
    (∀ c ∈ chars, c = mark) ∧
      closing mark (chars ++ (List.replicate 3 mark ++ rest)) = (chars, rest) := by
  have hstop : rest.takeWhile (· == mark) = [] := by
    cases rest with
    | nil => rfl
    | cons c rest => simp_all
  match chars with
  | [] => simp [closing, hstop, List.replicate]
  | [a] =>
    obtain rfl : mark = a := by simpa [closes] using h
    simp [closing, hstop, List.replicate]
  | [a, b] =>
    obtain ⟨rfl, rfl⟩ : mark = a ∧ mark = b := by simpa [closes] using h
    simp [closing, hstop, List.replicate]
  | a :: b :: c :: more =>
    obtain ⟨rfl, rfl, rfl⟩ : mark = a ∧ mark = b ∧ mark = c := by simpa [closes] using h
    simp at hlead

theorem closes_cons_of_ne {mark c : Char} (h : c ≠ mark) (rest : List Char) :
    closes mark (c :: rest) = false := by
  simp [closes, List.isPrefixOf, h.symm]

theorem newline?_cons_eq_none {c : Char} (hline : c ≠ '\n') (hcr : c ≠ '\r') (rest : List Char) :
    newline? (c :: rest) = none := by
  simp [newline?, hline, hcr]

/-- Where a text on several lines goes on, its first character is an escape or stands for itself. -/
theorem basicLines_escape {body : List Char} {c : Char} (h : Escapes body c) (rest : List Char) :
    basicLines ('\\' :: body ++ rest) = (basicLines rest).map (prepend c) := by
  have hslash : '\\' ≠ quote := by decide
  rw [List.cons_append, basicLines, closes_cons_of_ne hslash, if_neg (by decide), if_neg hslash,
    if_pos rfl]
  split
  · rename_i after hline
    rw [(h rest).2] at hline
    cases hline
  · rw [(h rest).1]
    simp

theorem basicLines_char {c : Char} (h : StandsForItself true c) (rest : List Char) :
    basicLines (c :: rest) = (basicLines rest).map (prepend c) := by
  rw [basicLines, closes_cons_of_ne h.ne_quote, if_neg (by decide), if_neg h.ne_quote,
    if_neg h.ne_backslash]
  split
  · rename_i after hline
    by_cases hc : c = '\n'
    · subst hc
      cases hline
      rfl
    · rw [newline?_cons_eq_none hc h.ne_return] at hline
      cases hline
  · rename_i hline
    rcases h.shown with hbasic | ⟨-, rfl⟩
    · rw [if_pos hbasic]
    · cases hline

theorem basicLines_quote {rest : List Char} (h : closes quote (quote :: rest) = false) :
    basicLines (quote :: rest) = (basicLines rest).map (prepend quote) := by
  rw [basicLines, if_neg (by simp [h]), if_pos rfl]

theorem basicLines_of_closes {chars : List Char} (h : closes quote chars = true) :
    basicLines chars = some (closing quote chars) := by
  cases chars with
  | nil => simp [closes] at h
  | cons c rest => rw [basicLines, if_pos h]

theorem leading_backslash (chars : List Char) : leading quote ('\\' :: chars) = 0 :=
  leading_cons_of_ne (by decide) chars

/-- With those written before, no three quotes in a row are written unescaped. -/
theorem leading_basicChars (chars : List Char) :
    ∀ run ≤ 2, run + leading quote (basicChars true run chars) ≤ 2 := by
  induction chars with
  | nil => simp [basicChars]
  | cons c chars ih =>
    intro run hrun
    rcases basicChars_cons_cases true run c chars with
      ⟨-, -, hfew, hchars⟩ | ⟨hself, hchars⟩ | ⟨body, -, hchars⟩
    · have := ih (run + 1) (by omega)
      rw [hchars, leading_cons_self]
      omega
    · rwa [hchars, leading_cons_of_ne hself.ne_quote]
    · rwa [hchars, List.cons_append, leading_backslash]

/-- A text that is written in quotes alone is written as it is. -/
theorem basicChars_of_quotes (chars : List Char) :
    ∀ run, (∀ c ∈ basicChars true run chars, c = quote) → basicChars true run chars = chars := by
  induction chars with
  | nil => simp [basicChars]
  | cons c chars ih =>
    intro run hall
    rcases basicChars_cons_cases true run c chars with
      ⟨hquote, -, -, hchars⟩ | ⟨hself, hchars⟩ | ⟨body, -, hchars⟩ <;> rw [hchars] at hall ⊢
    · rw [ih _ fun d hd => hall d (List.mem_cons_of_mem _ hd), hquote]
    · exact absurd (hall c List.mem_cons_self) hself.ne_quote
    · exact absurd (hall '\\' List.mem_cons_self) (by decide)

/-- Basic text on several lines is read up to the closing quotes. -/
theorem basicLines_basicChars {rest : List Char} (hrest : rest.head? ≠ some quote)
    (chars : List Char) :
    ∀ run ≤ 2, basicLines (basicChars true run chars ++ (List.replicate 3 quote ++ rest))
      = some (chars, rest) := by
  induction chars with
  | nil =>
    intro run _
    have hclose : closes quote (List.replicate 3 quote ++ rest) = true := by
      simp [closes, List.replicate]
    rw [basicChars, List.nil_append, basicLines_of_closes hclose]
    exact congrArg some (@closes_append quote [] rest (by simp) hrest hclose).2
  | cons c chars ih =>
    intro run hrun
    by_cases hclose : closes quote (basicChars true run (c :: chars) ++
        (List.replicate 3 quote ++ rest)) = true
    · -- Three quotes stand here, so all that is left of the text are quotes.
      have hlead := leading_basicChars (c :: chars) run hrun
      obtain ⟨hquotes, hclosing⟩ := closes_append (by omega) hrest hclose
      rw [basicLines_of_closes hclose, hclosing, basicChars_of_quotes _ run hquotes]
    · rw [Bool.not_eq_true] at hclose
      rcases basicChars_cons_cases true run c chars with
        ⟨hquote, -, hfew, hchars⟩ | ⟨hself, hchars⟩ | ⟨body, hescapes, hchars⟩
      · rw [hchars, List.cons_append] at hclose ⊢
        rw [basicLines_quote hclose, ih (run + 1) (by omega), hquote]
        rfl
      · rw [hchars, List.cons_append, basicLines_char hself, ih 0 (by omega)]
        rfl
      · rw [hchars, List.append_assoc, basicLines_escape hescapes, ih 0 (by omega)]
        rfl

theorem leading_le_longestRun (mark : Char) (chars : List Char) :
    ∀ run best, run ≤ best → best ≤ longestRun mark run best chars ∧
      run + leading mark chars ≤ longestRun mark run best chars := by
  induction chars with
  | nil =>
    intro run best h
    simpa [longestRun] using h
  | cons c chars ih =>
    intro run best h
    by_cases hmark : c = mark
    · subst hmark
      have := ih (run + 1) (max best (run + 1)) (by omega)
      simp only [longestRun, leading_cons_self, if_true]
      omega
    · have := ih 0 best (by omega)
      simp only [longestRun, leading_cons_of_ne hmark, hmark, if_false]
      omega

theorem literalLines_of_closes {chars : List Char} (h : closes apostrophe chars = true) :
    literalLines chars = some (closing apostrophe chars) := by
  cases chars with
  | nil => simp [closes] at h
  | cons c rest => rw [literalLines, if_pos h]

/-- Where a literal text on several lines goes on, its first character stands for itself. -/
theorem literalLines_char {c : Char} {rest : List Char} (hplain : needsEscape c = false)
    (h : closes apostrophe (c :: rest) = false) :
    literalLines (c :: rest) = (literalLines rest).map (prepend c) := by
  rw [literalLines, if_neg (by simp [h])]
  by_cases happ : c = apostrophe
  · rw [if_pos happ, happ]
  · rw [if_neg happ]
    have hcr : c ≠ '\r' := by
      rintro rfl
      exact absurd hplain (by decide)
    split
    · rename_i after hline
      by_cases hc : c = '\n'
      · subst hc
        cases hline
        rfl
      · rw [newline?_cons_eq_none hc hcr] at hline
        cases hline
    · rename_i hline
      have hc : c ≠ '\n' := by
        rintro rfl
        cases hline
      have hliteral : isLiteralChar c = true := by
        simp_all [needsEscape, isLiteralChar]
      rw [if_pos hliteral]

/-- Literal text on several lines without three apostrophes in a row is read up to the closing
ones. -/
theorem literalLines_append {rest : List Char} (hrest : rest.head? ≠ some apostrophe)
    (chars : List Char) :
    ∀ run best, run ≤ best → longestRun apostrophe run best chars ≤ 2 →
      (∀ c ∈ chars, needsEscape c = false) →
      literalLines (chars ++ (List.replicate 3 apostrophe ++ rest)) = some (chars, rest) := by
  induction chars with
  | nil =>
    intro run best _ _ _
    have hclose : closes apostrophe (List.replicate 3 apostrophe ++ rest) = true := by
      simp [closes, List.replicate]
    rw [List.nil_append, literalLines_of_closes hclose]
    exact congrArg some (@closes_append apostrophe [] rest (by simp) hrest hclose).2
  | cons c chars ih =>
    intro run best hrun hlong hplain
    by_cases hclose : closes apostrophe (c :: chars ++ (List.replicate 3 apostrophe ++ rest)) = true
    · have hlead := leading_le_longestRun apostrophe (c :: chars) run best hrun
      obtain ⟨-, hclosing⟩ := closes_append (by omega) hrest hclose
      rw [literalLines_of_closes hclose, hclosing]
    · rw [Bool.not_eq_true] at hclose
      have hread : literalLines (chars ++ (List.replicate 3 apostrophe ++ rest))
          = some (chars, rest) := by
        have hmore : ∀ d ∈ chars, needsEscape d = false := fun d hd => hplain d (by simp [hd])
        by_cases happ : c = apostrophe
        · rw [longestRun, if_pos happ] at hlong
          exact ih _ _ (by omega) hlong hmore
        · rw [longestRun, if_neg happ] at hlong
          exact ih _ _ (by omega) hlong hmore
      rw [List.cons_append] at hclose ⊢
      rw [literalLines_char (hplain c (by simp)) hclose, hread]
      rfl

theorem skipNewline_enclosed {lines : Bool} {chars : List Char}
    (h : lines = false → newline? chars = none) :
    skipNewline ((if lines then ['\n'] else []) ++ chars) = chars := by
  cases lines with
  | true => simp [skipNewline, newline?]
  | false => simp [skipNewline, h rfl]

/-- Whether a form holds a text.  Literal forms know no escapes, and end at the first mark. -/
def TextForm.Holds (chars : List Char) : TextForm → Prop
  | .basic | .basicLines => True
  | .literal => ∀ c ∈ chars, isLiteralChar c = true
  | .literalLines => (∀ c ∈ chars, needsEscape c = false) ∧ longestRun apostrophe 0 0 chars ≤ 2

theorem longestRun_eq_zero {mark : Char} {chars : List Char} (h : longestRun mark 0 0 chars = 0) :
    ∀ c ∈ chars, c ≠ mark := by
  induction chars with
  | nil => simp
  | cons c chars ih =>
    by_cases hmark : c = mark
    · have := leading_le_longestRun mark chars 1 1 (by omega)
      rw [longestRun, if_pos hmark] at h
      simp at h
      omega
    · rw [longestRun, if_neg hmark] at h
      simp only [List.mem_cons, forall_eq_or_imp]
      exact ⟨hmark, ih h⟩

theorem TextForm.choose_holds (chars : List Char) : (TextForm.choose chars).Holds chars := by
  unfold choose
  simp only
  split_ifs with h₁ h₂ h₃ h₄ h₅
  · trivial
  · simp at h₂
    obtain ⟨⟨hplain, hruns⟩, hlines⟩ := h₂
    intro c hc
    have hline : c ≠ '\n' := by
      rintro rfl
      exact hlines hc
    have := hplain c hc
    have := longestRun_eq_zero hruns c hc
    simp_all [isLiteralChar, needsEscape]
  · trivial
  · simpa [Holds] using h₄
  · trivial
  · trivial

/-- A short text between two marks does not begin with three of them. -/
theorem closes_short {mark : Char} {body rest : List Char} (hbody : leading mark body = 0)
    (hrest : rest.head? ≠ some mark) : closes mark (mark :: (body ++ mark :: rest)) = false := by
  cases body with
  | nil =>
    cases rest with
    | nil => simp [closes, List.isPrefixOf]
    | cons c rest =>
      have hne : mark ≠ c := fun h => hrest (by rw [h]; rfl)
      simp [closes, List.isPrefixOf, hne]
  | cons c body =>
    have hne : c ≠ mark := by
      rintro rfl
      simp at hbody
    simp [closes, List.isPrefixOf, hne.symm]

theorem leading_basicChars_false (chars : List Char) :
    leading quote (basicChars false 0 chars) = 0 := by
  cases chars with
  | nil => rfl
  | cons c chars =>
    rcases basicChars_cons_cases false 0 c chars with
      ⟨-, hlines, -⟩ | ⟨hself, hchars⟩ | ⟨body, -, hchars⟩
    · cases hlines
    · rw [hchars, leading_cons_of_ne hself.ne_quote]
    · rw [hchars, List.cons_append, leading_backslash]

theorem leading_of_literal {chars : List Char} (h : ∀ c ∈ chars, isLiteralChar c = true) :
    leading apostrophe chars = 0 := by
  cases chars with
  | nil => rfl
  | cons c chars =>
    have := h c (by simp)
    exact leading_cons_of_ne (by simp_all [isLiteralChar]) chars

/-- What stands between the marks of a text on several lines is read from its first line on. -/
theorem scan_enclosed {mark : Char} {lines : Bool} {body rest : List Char}
    (h : lines = false → newline? (body ++ (List.replicate 3 mark ++ rest)) = none) :
    closes mark (enclose mark lines body ++ rest) = true ∧
      skipNewline ((enclose mark lines body ++ rest).drop 3)
        = body ++ (List.replicate 3 mark ++ rest) := by
  have hform : enclose mark lines body ++ rest = List.replicate 3 mark ++
      ((if lines then ['\n'] else []) ++ (body ++ (List.replicate 3 mark ++ rest))) := by
    cases lines <;> simp [enclose]
  rw [hform]
  refine ⟨by simp [closes, List.replicate], ?_⟩
  rw [List.drop_left' (by simp)]
  exact skipNewline_enclosed h

theorem newline?_append_eq_none {body rest : List Char} {mark : Char} (hline : mark ≠ '\n')
    (hcr : mark ≠ '\r') (h : ∀ c ∈ body.head?, c ≠ '\n' ∧ c ≠ '\r') :
    newline? (body ++ (List.replicate 3 mark ++ rest)) = none := by
  cases body with
  | nil => exact newline?_cons_eq_none hline hcr _
  | cons c body =>
    have := h c (by simp)
    exact newline?_cons_eq_none this.1 this.2 _

theorem head?_basicChars {chars : List Char} (h : chars.contains '\n' = false) :
    ∀ c ∈ (basicChars true 0 chars).head?, c ≠ '\n' ∧ c ≠ '\r' := by
  cases chars with
  | nil => simp [basicChars]
  | cons c chars =>
    rcases basicChars_cons_cases true 0 c chars with
      ⟨-, -, -, hchars⟩ | ⟨hself, hchars⟩ | ⟨body, -, hchars⟩
    · simp [hchars, quote]
    · have hc : c ≠ '\n' := by
        rintro rfl
        simp at h
      simp [hchars, hc, hself.ne_return]
    · simp [hchars]

/-- A text that is written in a form that holds it is read back. -/
theorem scanText_render {chars rest : List Char} {form : TextForm} (h : form.Holds chars)
    (hquote : rest.head? ≠ some quote) (happ : rest.head? ≠ some apostrophe) :
    scanText (form.render chars ++ rest) = some (String.ofList chars, rest) := by
  have hne : apostrophe ≠ quote := by decide
  cases form with
  | basic =>
    have hform : TextForm.basic.render chars ++ rest
        = quote :: (basicChars false 0 chars ++ quote :: rest) := by simp [TextForm.render]
    have hopen := closes_short (leading_basicChars_false chars) hquote
    rw [hform, scanText, hopen, closes_cons_of_ne hne.symm]
    simp [scanShortText, basicBody_basicChars]
  | literal =>
    have hform : TextForm.literal.render chars ++ rest
        = apostrophe :: (chars ++ apostrophe :: rest) := by simp [TextForm.render]
    have hopen := closes_short (leading_of_literal h) happ
    rw [hform, scanText, hopen, closes_cons_of_ne hne]
    simp [scanShortText, hne, literalBody_append rest h]
  | basicLines =>
    have hfirst : chars.contains '\n' = false →
        newline? (basicChars true 0 chars ++ (List.replicate 3 quote ++ rest)) = none :=
      fun hline => newline?_append_eq_none (by decide) (by decide) (head?_basicChars hline)
    obtain ⟨hopen, hbody⟩ := scan_enclosed hfirst
    rw [TextForm.render, scanText, if_pos hopen, hbody,
      basicLines_basicChars hquote chars 0 (by omega)]
    rfl
  | literalLines =>
    obtain ⟨hplain, hlong⟩ := h
    have hfirst : chars.contains '\n' = false →
        newline? (chars ++ (List.replicate 3 apostrophe ++ rest)) = none := by
      intro hline
      refine newline?_append_eq_none (by decide) (by decide) fun c hc => ?_
      have hmem : c ∈ chars := List.mem_of_mem_head? hc
      refine ⟨?_, ?_⟩
      · rintro rfl
        simp_all
      · rintro rfl
        exact absurd (hplain _ hmem) (by decide)
    obtain ⟨hopen, hbody⟩ := scan_enclosed hfirst
    have hother :
        closes quote (enclose apostrophe (chars.contains '\n') chars ++ rest) = false := by
      unfold enclose
      split <;> exact closes_cons_of_ne hne _
    rw [TextForm.render, scanText, hother, if_neg (by decide), if_pos hopen, hbody,
      literalLines_append happ chars 0 0 (by omega) hlong hplain]
    rfl

theorem scanText_renderText (text : String) {rest : List Char}
    (hquote : rest.head? ≠ some quote) (happ : rest.head? ≠ some apostrophe) :
    scanText ((renderText text).toList ++ rest) = some (text, rest) := by
  rw [renderText, String.toList_ofList, scanText_render (TextForm.choose_holds _) hquote happ,
    String.ofList_toList]

end GatewayLogin.Toml
