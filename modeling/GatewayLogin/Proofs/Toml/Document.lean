/-
Documents that are written are read back.

Each line is read as one step: a header opens its table, and a key with its value goes to the end of
the table that was opened last, since no name and no key occurs twice (`scanLines_entries`,
`scanLines_document`).  So sections come back with all their entries in order, and writing and
reading are a faithful pair (`Codec.plain_faithful`).
-/
import GatewayLogin.Proofs.Toml.Text
import GatewayLogin.Proofs.Toml.Number

namespace GatewayLogin.Toml

/-- A name that stands in a document without quotes. -/
def IsBare (name : String) : Prop :=
  name.toList ≠ [] ∧ ∀ c ∈ name.toList, isKeyChar c = true

instance (name : String) : Decidable (IsBare name) :=
  decidable_of_iff (name.toList ≠ [] ∧ name.toList.all isKeyChar = true) (by simp [IsBare])

/-- Sections whose names can stand as headers and whose keys can stand in lines, none of them twice
in one place. -/
structure Tidy (sections : List Section) : Prop where
  names_nodup : (sections.map Section.name).Nodup
  names_bare : ∀ part ∈ sections, IsBare part.name
  keys_nodup : ∀ part ∈ sections, (part.entries.map Prod.fst).Nodup
  keys_bare : ∀ part ∈ sections, ∀ entry ∈ part.entries, IsBare entry.1

/-- A text is read as sections with their entries in order. -/
def Codec.Reads (codec : Codec) (text : String) (sections : List Section) : Prop :=
  codec.read? text = some (Section.toEntries sections)

/-- What is relied on when documents are written and read: what is written is read back, and an
integer that no document can hold is refused. -/
structure Codec.Faithful (codec : Codec) : Prop where
  keeps : ∀ sections, Tidy sections → (∀ part ∈ sections, part.fits = true) →
    ∃ text, codec.write? sections = some text ∧ codec.Reads text sections
  refuses : ∀ sections, (∃ part ∈ sections, part.fits = false) → codec.write? sections = none

theorem skipSpaces_cons {c : Char} (h : isSpace c = false) (rest : List Char) :
    skipSpaces (c :: rest) = c :: rest := by
  simp [skipSpaces, h]

theorem ne_of_isKeyChar {c d : Char} (hc : isKeyChar c = true) (hd : isKeyChar d = false) :
    c ≠ d := by
  rintro rfl
  rw [hc] at hd
  cases hd

theorem isSpace_of_isKeyChar {c : Char} (h : isKeyChar c = true) : isSpace c = false := by
  have hspace : c ≠ ' ' := ne_of_isKeyChar h (by decide)
  have htab : c ≠ '\t' := ne_of_isKeyChar h (by decide)
  simp [isSpace, hspace, htab]

theorem IsBare.eq_cons {name : String} (h : IsBare name) :
    ∃ c chars, name.toList = c :: chars ∧ isKeyChar c = true := by
  obtain ⟨c, chars, hname⟩ := List.exists_cons_of_ne_nil h.1
  exact ⟨c, chars, hname, h.2 c (by simp [hname])⟩

/-- A name is read up to the first character that no name holds. -/
theorem scanKey_bare {name : String} (h : IsBare name) {rest : List Char}
    (hstop : ∀ c ∈ rest.head?, isKeyChar c = false) (hdot : (skipSpaces rest).head? ≠ some '.') :
    scanKey (name.toList ++ rest) = some (([], name), skipSpaces rest) := by
  obtain ⟨c, more, hname, hc⟩ := h.eq_cons
  have hquote : c ≠ quote := ne_of_isKeyChar hc (by decide)
  have happ : c ≠ apostrophe := ne_of_isKeyChar hc (by decide)
  have hshort : scanShortText (name.toList ++ rest) = none := by
    simp [hname, scanShortText, hquote, happ]
  have hrest : rest.takeWhile isKeyChar = [] ∧ rest.dropWhile isKeyChar = rest := by
    cases rest with
    | nil => simp
    | cons c rest => simp_all
  have hpart : scanKeyPart (name.toList ++ rest) = some (name, rest) := by
    simp only [scanKeyPart, hshort]
    rw [List.takeWhile_append_of_pos h.2, List.dropWhile_append_of_pos h.2, hrest.1, hrest.2,
      List.append_nil, String.ofList_toList, if_neg (by simp [hname])]
  have hstart : skipSpaces (name.toList ++ rest) = name.toList ++ rest := by
    rw [hname]
    exact skipSpaces_cons (isSpace_of_isKeyChar hc) _
  have hparts : scanKeyParts (name.toList ++ rest) = some ([name], skipSpaces rest) := by
    rw [scanKeyParts, hstart, hpart]
    split
    · rename_i h
      cases h
    · rename_i h
      cases h
      split
      · rename_i h
        rw [h] at hdot
        exact absurd rfl hdot
      · rfl
  simp [scanKey, hparts, depthLimit]

theorem enclose_eq_cons (mark : Char) (lines : Bool) (body : List Char) :
    ∃ rest, enclose mark lines body = mark :: rest := by
  cases lines
  · exact ⟨_, rfl⟩
  · exact ⟨_, rfl⟩

theorem renderText_eq_cons (text : String) :
    ∃ mark rest, (renderText text).toList = mark :: rest ∧ (mark = quote ∨ mark = apostrophe) := by
  rw [renderText, String.toList_ofList]
  cases TextForm.choose text.toList with
  | basic => exact ⟨_, _, rfl, .inl rfl⟩
  | literal => exact ⟨_, _, rfl, .inr rfl⟩
  | basicLines =>
    obtain ⟨rest, h⟩ := enclose_eq_cons quote (text.toList.contains '\n')
      (basicChars true 0 text.toList)
    exact ⟨quote, rest, h, .inl rfl⟩
  | literalLines =>
    obtain ⟨rest, h⟩ := enclose_eq_cons apostrophe (text.toList.contains '\n') text.toList
    exact ⟨apostrophe, rest, h, .inr rfl⟩

theorem toString_int_eq_cons (n : Int) :
    ∃ c rest, (toString n).toList = c :: rest ∧ (c = '-' ∨ c.isDigit = true) := by
  rw [toList_toString_int]
  by_cases h : n < 0
  · exact ⟨'-', decimalDigits n.natAbs, by simp [integerChars, h], .inl rfl⟩
  · obtain ⟨c, ds, hdigits, hc⟩ := decimalDigits_eq_cons n.natAbs
    exact ⟨c, ds, by simp [integerChars, h, hdigits], .inr hc⟩

theorem scanValue_integer {n : Int} (h : (Scalar.integer n).fits = true) (depth : Nat)
    (rest : List Char) :
    scanValue depth ((toString n).toList ++ '\n' :: rest)
      = some (.scalar (.integer n), '\n' :: rest) := by
  have hread := scanNumber_integer h rest
  obtain ⟨c, more, hchars, hc⟩ := toString_int_eq_cons n
  rw [hchars, List.cons_append] at hread ⊢
  have hne : ∀ d : Char, d ≠ '-' → d.isDigit = false → c ≠ d := by
    rintro d hminus hdigit rfl
    exact hc.elim hminus (by simp [hdigit])
  rw [scanValue.eq_def]
  simp [hread, hne quote (by decide) (by decide), hne apostrophe (by decide) (by decide),
    hne '[' (by decide) (by decide), hne '\x7b' (by decide) (by decide),
    hne 't' (by decide) (by decide), hne 'f' (by decide) (by decide)]

/-- A scalar that fits is read back at the end of its line. -/
theorem scanValue_render {value : Scalar} (h : value.fits = true) (depth : Nat)
    (rest : List Char) :
    scanValue depth (value.render.toList ++ '\n' :: rest)
      = some (.scalar value, '\n' :: rest) := by
  cases value with
  | text text =>
    have hquote : ('\n' :: rest).head? ≠ some quote := by simp [quote]
    have happ : ('\n' :: rest).head? ≠ some apostrophe := by simp [apostrophe]
    have hread := scanText_renderText text hquote happ
    obtain ⟨mark, more, hchars, hmark⟩ := renderText_eq_cons text
    rw [Scalar.render]
    rw [hchars, List.cons_append] at hread ⊢
    rw [scanValue.eq_def]
    simp [hmark, hread]
  | integer n => exact scanValue_integer h depth rest
  | boolean b =>
    rw [scanValue.eq_def]
    cases b <;> simp [Scalar.render, exactWord, quote, apostrophe, List.isPrefixOf] <;> rfl

theorem skipSpaces_render (value : Scalar) (rest : List Char) :
    skipSpaces (' ' :: (value.render.toList ++ rest)) = value.render.toList ++ rest := by
  have hfirst : ∃ c more, value.render.toList = c :: more ∧ isSpace c = false := by
    cases value with
    | text text =>
      obtain ⟨mark, more, hchars, rfl | rfl⟩ := renderText_eq_cons text
      · exact ⟨_, _, hchars, by decide⟩
      · exact ⟨_, _, hchars, by decide⟩
    | integer n =>
      obtain ⟨c, more, hchars, hc⟩ := toString_int_eq_cons n
      have hkey : isKeyChar c = true := by
        rcases hc with rfl | hc
        · decide
        · simp [isKeyChar, Char.isAlphanum, hc]
      exact ⟨c, more, hchars, isSpace_of_isKeyChar hkey⟩
    | boolean b => cases b <;> exact ⟨_, _, rfl, by decide⟩
  obtain ⟨c, more, hchars, hc⟩ := hfirst
  have hspace : skipSpaces (' ' :: (c :: more ++ rest)) = skipSpaces (c :: (more ++ rest)) := rfl
  rw [hchars, hspace, skipSpaces_cons hc]
  rfl

theorem lineEnd?_newline (rest : List Char) : lineEnd? ('\n' :: rest) = some rest := by
  simp [lineEnd?, skipSpaces, isSpace, skipComment, newline?]

/-- The line of a header. -/
def headerLine (name : String) : List Char :=
  '[' :: (name.toList ++ [']', '\n'])

/-- A header opens its table, and later keys go there. -/
theorem scanLine_header {name : String} (h : IsBare name) (draft : Draft) (rest : List Char) :
    scanLine draft (headerLine name ++ rest)
      = (openTable [] name draft.root).map fun root => (⟨root, [name]⟩, rest) := by
  have hchars : headerLine name ++ rest = '[' :: (name.toList ++ ']' :: '\n' :: rest) := by
    simp [headerLine]
  have hkey : scanKey (name.toList ++ ']' :: '\n' :: rest)
      = some (([], name), ']' :: '\n' :: rest) :=
    scanKey_bare h (by simp; decide) (by simp [skipSpaces, isSpace])
  have hsingle : ∀ more, name.toList ++ ']' :: '\n' :: rest ≠ '[' :: more := by
    intro more hbracket
    obtain ⟨c, chars, hname, hc⟩ := h.eq_cons
    rw [hname] at hbracket
    exact ne_of_isKeyChar hc (by decide) (List.cons.inj hbracket).1
  rw [hchars, scanLine]
  · rw [hkey]
    simp only [Option.bind_eq_bind, Option.bind_some, exactly, if_true, lineEnd?_newline]
    cases openTable [] name draft.root <;> rfl
  · exact hsingle

/-- The line of a key with its value. -/
def entryLine (entry : String × Scalar) : List Char :=
  entry.1.toList ++ ' ' :: '=' :: ' ' :: (entry.2.render.toList ++ ['\n'])

/-- A line that begins with a name holds a key. -/
theorem scanLine_key {c : Char} (h : isKeyChar c = true) (draft : Draft) (chars : List Char) :
    scanLine draft (c :: chars) = do
      let ((path, key), rest) ← scanKey (c :: chars)
      let rest ← exactly '=' rest
      let (value, rest) ← scanValue (depthLimit - 1) (skipSpaces rest)
      let rest ← lineEnd? rest
      let draft ← draft.define path key value
      return (draft, rest) := by
  have hbracket : c ≠ '[' := ne_of_isKeyChar h (by decide)
  have hhash : c ≠ '#' := ne_of_isKeyChar h (by decide)
  have hline : c ≠ '\n' := ne_of_isKeyChar h (by decide)
  have hcr : c ≠ '\r' := ne_of_isKeyChar h (by decide)
  rw [scanLine]
  -- Every other kind of line begins with a character that no key holds.
  all_goals grind

/-- A key with its value is defined in the table that keys go to. -/
theorem scanLine_entry {entry : String × Scalar} (h : IsBare entry.1)
    (hfits : entry.2.fits = true) (draft : Draft) (rest : List Char) :
    scanLine draft (entryLine entry ++ rest)
      = (draft.define [] entry.1 (.scalar entry.2)).map fun draft => (draft, rest) := by
  have hchars : entryLine entry ++ rest = entry.1.toList ++
      ' ' :: '=' :: ' ' :: (entry.2.render.toList ++ '\n' :: rest) := by
    simp [entryLine]
  have hkey : scanKey
      (entry.1.toList ++ ' ' :: '=' :: ' ' :: (entry.2.render.toList ++ '\n' :: rest))
      = some (([], entry.1), '=' :: ' ' :: (entry.2.render.toList ++ '\n' :: rest)) :=
    scanKey_bare h (by simp; decide) (by simp [skipSpaces, isSpace])
  obtain ⟨c, chars, hname, hc⟩ := h.eq_cons
  rw [hchars, hname, List.cons_append, scanLine_key hc,
    ← List.cons_append, ← hname, hkey]
  simp only [Option.bind_eq_bind, Option.bind_some, exactly, if_true, skipSpaces_render,
    scanValue_render hfits, lineEnd?_newline]
  cases draft.define [] entry.1 (.scalar entry.2) <;> rfl

/-- The characters of a section. -/
def Section.chars (s : Section) : List Char :=
  headerLine s.name ++ s.entries.flatMap entryLine

theorem toList_render_section (s : Section) : s.render.toList = s.chars := by
  have hlines : (s.entries.map fun e => e.1 ++ " = " ++ e.2.render ++ "\n").map String.toList
      = s.entries.map entryLine := by
    simp [entryLine]
  simp [Section.render, Section.chars, headerLine, hlines, List.flatMap_def]

/-- The characters of a document. -/
def documentChars : List Section → List Char
  | [] => []
  | [s] => s.chars
  | s :: t :: more => s.chars ++ '\n' :: documentChars (t :: more)

theorem toList_render (sections : List Section) :
    (render sections).toList = documentChars sections := by
  rw [render, String.toList_intercalate]
  induction sections with
  | nil => simp [documentChars]
  | cons s sections ih =>
    cases sections with
    | nil => simp [documentChars, toList_render_section]
    | cons t more =>
      simp only [List.map_cons, List.intercalate_cons_cons] at ih ⊢
      rw [ih, documentChars, toList_render_section]
      simp

/-- A line that is read is followed by the lines after it. -/
theorem scanLines_of_line {draft after : Draft} {line rest : List Char}
    (hstart : ∃ c chars, line = c :: chars ∧ isSpace c = false)
    (hread : scanLine draft (line ++ rest) = some (after, rest)) :
    scanLines draft (line ++ rest) = scanLines after rest := by
  obtain ⟨c, chars, rfl, hspace⟩ := hstart
  rw [List.cons_append] at hread ⊢
  rw [scanLines, skipSpaces_cons hspace]
  simp only [hread, List.length_cons, List.length_append]
  rw [if_pos (by omega)]

@[simp] theorem scanLines_nil (draft : Draft) : scanLines draft [] = some draft := by
  rw [scanLines]
  rfl

theorem find?_eq_none {key : String} {entries : Nodes} :
    find? key entries = none ↔ ∀ e ∈ entries, e.1 ≠ key := by
  simp [find?]

theorem find?_concat {key : String} {entries : Nodes} (h : find? key entries = none)
    (node : Node) : find? key (entries ++ [(key, node)]) = some node := by
  rw [find?, Option.map_eq_none_iff] at h
  simp [find?, List.find?_append, h]

theorem replace_concat {key : String} {entries : Nodes} (h : find? key entries = none)
    (before after : Node) :
    replace key after (entries ++ [(key, before)]) = entries ++ [(key, after)] := by
  have hsame : replace key after entries = entries := by
    refine (List.map_congr_left fun e he => ?_).trans (List.map_id entries)
    simp [find?_eq_none.mp h e he]
  rw [replace, List.map_append, ← replace, hsame]
  simp

/-- A new key goes to the end of the table that was opened last. -/
theorem define_concat {root inner : Nodes} {name key : String} (hname : find? name root = none)
    (hkey : find? key inner = none) (value : Value) :
    Draft.define ⟨root ++ [(name, .table .header inner)], [name]⟩ [] key value
      = some ⟨root ++ [(name, .table .header (inner ++ [(key, .leaf value)]))], [name]⟩ := by
  have hdefine : define [] key value .header inner = some (inner ++ [(key, .leaf value)]) := by
    simp [define, within, hkey]
  simp [Draft.define, within, find?_concat hname, hdefine, replace_concat hname]

/-- The entries of a section as they are defined in a growing document. -/
def leaves (entries : List (String × Scalar)) : Nodes :=
  entries.map fun e => (e.1, .leaf (.scalar e.2))

/-- A section as it is defined in a growing document. -/
def Section.node (s : Section) : String × Node :=
  (s.name, .table .header (leaves s.entries))

theorem entryLine_eq_cons {entry : String × Scalar} (h : IsBare entry.1) :
    ∃ c chars, entryLine entry = c :: chars ∧ isSpace c = false := by
  obtain ⟨c, chars, hname, hc⟩ := h.eq_cons
  exact ⟨c, _, by rw [entryLine, hname]; rfl, isSpace_of_isKeyChar hc⟩

/-- The lines of keys are read one by one into the table that was opened last.  The induction is on
the lines that are left, and what was read before them is the table `inner`. -/
theorem scanLines_entries {root : Nodes} {name : String} (hname : find? name root = none)
    (rest : List Char) (entries : List (String × Scalar)) :
    ∀ inner : Nodes, (inner.map Prod.fst ++ entries.map Prod.fst).Nodup →
      (∀ entry ∈ entries, IsBare entry.1 ∧ entry.2.fits = true) →
      scanLines ⟨root ++ [(name, .table .header inner)], [name]⟩
          (entries.flatMap entryLine ++ rest)
        = scanLines ⟨root ++ [(name, .table .header (inner ++ leaves entries))], [name]⟩ rest := by
  induction entries with
  | nil => simp [leaves]
  | cons entry entries ih =>
    intro inner hnodup hall
    obtain ⟨hbare, hfits⟩ := hall entry (by simp)
    obtain ⟨c, chars, hline, hspace⟩ := entryLine_eq_cons hbare
    have hkey : find? entry.1 inner = none := by
      rw [find?_eq_none]
      intro e he heq
      have hfresh := (List.nodup_append.mp hnodup).2.2 e.1 (List.mem_map_of_mem he)
      exact hfresh entry.1 (by simp) heq
    have hread := scanLine_entry hbare hfits ⟨root ++ [(name, .table .header inner)], [name]⟩
      (entries.flatMap entryLine ++ rest)
    rw [define_concat hname hkey] at hread
    rw [List.flatMap_cons, List.append_assoc, scanLines_of_line (entryLine_eq_cons hbare) hread, ih]
    · simp [leaves]
    · simpa using hnodup
    · exact fun e he => hall e (by simp [he])

theorem scanLines_section {root : Nodes} {s : Section} (hroot : find? s.name root = none)
    (hname : IsBare s.name) (hkeys : (s.entries.map Prod.fst).Nodup)
    (hall : ∀ entry ∈ s.entries, IsBare entry.1 ∧ entry.2.fits = true)
    (current : List String) (rest : List Char) :
    scanLines ⟨root, current⟩ (s.chars ++ rest)
      = scanLines ⟨root ++ [s.node], [s.name]⟩ rest := by
  have hopen : openTable [] s.name root = some (root ++ [(s.name, .table .header [])]) := by
    simp [openTable, within, hroot]
  have hread := scanLine_header hname ⟨root, current⟩ (s.entries.flatMap entryLine ++ rest)
  rw [hopen] at hread
  have hentries := scanLines_entries hroot rest s.entries [] (by simpa using hkeys) hall
  have hstart : ∃ c chars, headerLine s.name = c :: chars ∧ isSpace c = false :=
    ⟨'[', _, rfl, by decide⟩
  rw [Section.chars, List.append_assoc, scanLines_of_line hstart hread, hentries]
  rfl

theorem Tidy.tail {s : Section} {sections : List Section} (h : Tidy (s :: sections)) :
    Tidy sections where
  names_nodup := (List.nodup_cons.mp h.names_nodup).2
  names_bare part hpart := h.names_bare part (by simp [hpart])
  keys_nodup part hpart := h.keys_nodup part (by simp [hpart])
  keys_bare part hpart := h.keys_bare part (by simp [hpart])

/-- A document is read section by section. -/
theorem scanLines_document (sections : List Section) :
    ∀ (root : Nodes) (current : List String), Tidy sections →
      (∀ part ∈ sections, part.fits = true) → (∀ part ∈ sections, find? part.name root = none) →
      (scanLines ⟨root, current⟩ (documentChars sections)).map Draft.root
        = some (root ++ sections.map Section.node) := by
  induction sections with
  | nil => simp [documentChars]
  | cons s sections ih =>
    intro root current htidy hfits hroot
    have hentries : ∀ entry ∈ s.entries, IsBare entry.1 ∧ entry.2.fits = true := by
      intro entry hentry
      have hs := hfits s (by simp)
      rw [Section.fits, List.all_eq_true] at hs
      exact ⟨htidy.keys_bare s (by simp) entry hentry, hs entry hentry⟩
    have hsection := scanLines_section (hroot s (by simp)) (htidy.names_bare s (by simp))
      (htidy.keys_nodup s (by simp)) hentries current
    cases sections with
    | nil =>
      have hdone := hsection []
      rw [List.append_nil] at hdone
      simp [documentChars, hdone]
    | cons t more =>
      have hfresh : ∀ part ∈ t :: more, find? part.name (root ++ [s.node]) = none := by
        intro part hpart
        rw [find?_eq_none]
        intro e he
        rcases List.mem_append.mp he with hold | hlast
        · exact find?_eq_none.mp (hroot part (by simp [hpart])) e hold
        · rw [List.mem_singleton.mp hlast]
          intro heq
          have hmem : s.name ∈ (t :: more).map Section.name := by
            rw [show s.name = part.name from heq]
            exact List.mem_map_of_mem hpart
          exact (List.nodup_cons.mp htidy.names_nodup).1 hmem
      have hblank : scanLines ⟨root ++ [s.node], [s.name]⟩ ('\n' :: documentChars (t :: more))
          = scanLines ⟨root ++ [s.node], [s.name]⟩ (documentChars (t :: more)) :=
        @scanLines_of_line _ _ ['\n'] _ ⟨'\n', [], rfl, by decide⟩ rfl
      rw [documentChars, hsection, hblank,
        ih _ _ htidy.tail (fun part hpart => hfits part (by simp [hpart])) hfresh]
      simp

theorem toEntries_leaves (entries : List (String × Scalar)) :
    toEntries (leaves entries) = entries.map fun e => (e.1, .scalar e.2) := by
  induction entries with
  | nil => rfl
  | cons e entries ih => exact congrArg ((e.1, .scalar e.2) :: ·) ih

theorem toEntries_map_node (sections : List Section) :
    toEntries (sections.map Section.node) = Section.toEntries sections := by
  induction sections with
  | nil => rfl
  | cons s sections ih =>
    rw [List.map_cons, Section.node, toEntries, Node.toValue, toEntries_leaves, ih]
    rfl

/-- A text without a mark in front is read from its first character on. -/
theorem parse?_of_head {text : String} (h : text.toList.head? ≠ some byteOrderMark) :
    parse? text = (scanLines {} text.toList).map fun draft => toEntries draft.root := by
  unfold parse?
  cases hchars : text.toList with
  | nil => rfl
  | cons c rest =>
    have hne : c ≠ byteOrderMark := by
      rintro rfl
      simp [hchars] at h
    simp [hne]

theorem head?_documentChars (sections : List Section) :
    (documentChars sections).head? ≠ some byteOrderMark := by
  cases sections with
  | nil => simp [documentChars]
  | cons s more => cases more <;> simp [documentChars, Section.chars, headerLine, byteOrderMark]

/-- A document that is written is read back. -/
theorem parse?_render {sections : List Section} (htidy : Tidy sections)
    (hfits : ∀ part ∈ sections, part.fits = true) :
    parse? (render sections) = some (Section.toEntries sections) := by
  have hread := scanLines_document sections [] [] htidy hfits fun _ _ => rfl
  obtain ⟨draft, hscan, hroot⟩ := Option.map_eq_some_iff.mp hread
  rw [parse?_of_head (by rw [toList_render]; exact head?_documentChars sections), toList_render]
  have hscan : scanLines {} (documentChars sections) = some draft := hscan
  rw [hscan, Option.map_some, hroot, List.nil_append, toEntries_map_node]

theorem Codec.plain_faithful : Codec.plain.Faithful where
  keeps sections htidy hfits := by
    refine ⟨render sections, if_pos (List.all_eq_true.mpr hfits), parse?_render htidy hfits⟩
  refuses sections h := by
    obtain ⟨part, hpart, hfits⟩ := h
    refine if_neg fun hall => ?_
    rw [List.all_eq_true.mp hall part hpart] at hfits
    cases hfits

end GatewayLogin.Toml
