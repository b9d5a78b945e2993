/-
Documents from which sections and keys are removed.

What is left is as tidy as the whole, fits as well, and reads as the entries that stay
(`Selection.toEntries_apply`).
-/
import GatewayLogin.Proofs.Toml.Document

namespace GatewayLogin.Toml

/-- Which sections of a document stay, and which keys of the sections that stay. -/
structure Selection where
  keepsSection : String → Bool
  keepsKey : (name key : String) → Bool

/-- Whether a key stays in a section that stays. -/
def Selection.keeps (selection : Selection) (name key : String) : Bool :=
  selection.keepsSection name && selection.keepsKey name key

/-- A document without what does not stay. -/
def Selection.apply (selection : Selection) (sections : List Section) : List Section :=
  (sections.filter fun part => selection.keepsSection part.name).map fun part =>
    { part with entries := part.entries.filter fun e => selection.keepsKey part.name e.1 }

/-- Nothing is removed. -/
def Selection.all : Selection :=
  ⟨fun _ => true, fun _ _ => true⟩

/-- A section that stays is a section of the document, perhaps without some of its entries. -/
theorem Selection.mem_apply {selection : Selection} {sections : List Section}
    {part : Section} (h : part ∈ selection.apply sections) :
    ∃ whole ∈ sections, part.name = whole.name ∧ part.entries.Sublist whole.entries := by
  obtain ⟨whole, hwhole, rfl⟩ := List.mem_map.mp h
  exact ⟨whole, List.filter_sublist.mem hwhole, rfl, List.filter_sublist⟩

theorem Tidy.apply {sections : List Section} (h : Tidy sections)
    (selection : Selection) : Tidy (selection.apply sections) where
  names_nodup := by
    have hnames : (selection.apply sections).map Section.name
        = (sections.filter fun part => selection.keepsSection part.name).map Section.name := by
      simp [Selection.apply, Function.comp_def]
    rw [hnames]
    exact (List.filter_sublist.map _).nodup h.names_nodup
  names_bare part hpart := by
    obtain ⟨whole, hwhole, hname, -⟩ := Selection.mem_apply hpart
    exact hname ▸ h.names_bare whole hwhole
  keys_nodup part hpart := by
    obtain ⟨whole, hwhole, -, hentries⟩ := Selection.mem_apply hpart
    exact (hentries.map _).nodup (h.keys_nodup whole hwhole)
  keys_bare part hpart entry hentry := by
    obtain ⟨whole, hwhole, -, hentries⟩ := Selection.mem_apply hpart
    exact h.keys_bare whole hwhole entry (hentries.mem hentry)

theorem Selection.fits_apply {selection : Selection} {sections : List Section}
    (h : ∀ part ∈ sections, part.fits = true) :
    ∀ part ∈ selection.apply sections, part.fits = true := by
  intro part hpart
  obtain ⟨whole, hwhole, -, hentries⟩ := mem_apply hpart
  have hfits := h whole hwhole
  rw [Section.fits, List.all_eq_true] at hfits ⊢
  exact fun entry hentry => hfits entry (hentries.mem hentry)

theorem Selection.apply_all (sections : List Section) :
    Selection.all.apply sections = sections := by
  have htrue : ∀ {α : Type} (l : List α), l.filter (fun _ => true) = l := fun l =>
    List.filter_eq_self.mpr fun _ _ => rfl
  simp [Selection.apply, Selection.all, htrue]

/-- The entries of what stays are those entries of the whole that stay. -/
theorem Selection.toEntries_apply (selection : Selection) (sections : List Section) :
    Section.toEntries (selection.apply sections)
      = (sections.map fun part => (part.name, Value.table
          ((part.entries.map fun e => (e.1, .scalar e.2)).filter fun e =>
            selection.keepsKey part.name e.1))).filter fun e => selection.keepsSection e.1 := by
  simp [Section.toEntries, Selection.apply, List.filter_map, Function.comp_def]

end GatewayLogin.Toml
