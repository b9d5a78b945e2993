/-
What a reader takes off the front of a byte string, and how it fails.

A reader reads a language when it takes a form of its value off the front, and fails where no form
stands there; inside a buffer it takes the form at the offset (`Reader.Reads.readAt_eq_ok_iff`).
Both this and the kind of its faults pass through the ways of combining readers.
-/
import GatewayLogin.Wire.Reader

namespace GatewayLogin

namespace Reader

variable {α β : Type}

/-- The reader takes off the front exactly what is a form of the value that it gives. -/
def Reads (read : Reader α) (Form : α → Bytes → Prop) : Prop :=
  ∀ bytes value rest,
    read bytes = .ok (value, rest) ↔ ∃ form, bytes = form ++ rest ∧ Form value form

/-- The reader faults only over bytes that it cannot read. -/
def IsCodec (read : Reader α) : Prop :=
  ∀ ⦃bytes : Bytes⦄ ⦃fault : Fault⦄, read bytes = .error fault → fault.isCodecFault = true

@[simp] theorem map_map {γ : Type} (g : β → γ) (f : α → β) (read : Reader α) :
    map g (map f read) = map (g ∘ f) read := by
  funext bytes
  simp only [map]
  cases read bytes with
  | ok result => rfl
  | error fault => rfl

theorem map_id (read : Reader α) : map (fun value => value) read = read := by
  funext bytes
  simp only [map]
  cases read bytes with
  | ok result => rfl
  | error fault => rfl

theorem map_eq_ok_iff {f : α → β} {read : Reader α} {bytes rest : Bytes} {value : β} :
    map f read bytes = .ok (value, rest) ↔ ∃ a, read bytes = .ok (a, rest) ∧ f a = value := by
  cases hread : read bytes with
  | ok result =>
      obtain ⟨a, left⟩ := result
      simp only [map, hread, Except.ok.injEq, Prod.mk.injEq, and_assoc, exists_eq_left']
      exact and_comm
  | error fault => simp [map, hread]

theorem bind_eq_ok_iff {read : Reader α} {next : α → Reader β} {bytes rest : Bytes} {value : β} :
    bind read next bytes = .ok (value, rest) ↔
      ∃ a between, read bytes = .ok (a, between) ∧ next a between = .ok (value, rest) := by
  cases hread : read bytes with
  | ok result =>
      obtain ⟨a, left⟩ := result
      simp [bind, hread, and_assoc]
  | error fault => simp [bind, hread]

theorem map_eq_error_iff {f : α → β} {read : Reader α} {bytes : Bytes} {fault : Fault} :
    map f read bytes = .error fault ↔ read bytes = .error fault := by
  cases hread : read bytes <;> simp [map, hread]

theorem bind_eq_error_iff {read : Reader α} {next : α → Reader β} {bytes : Bytes} {fault : Fault} :
    bind read next bytes = .error fault ↔ read bytes = .error fault ∨
      ∃ value rest, read bytes = .ok (value, rest) ∧ next value rest = .error fault := by
  cases hread : read bytes with
  | ok result =>
      obtain ⟨value, rest⟩ := result
      simp [bind, hread, and_assoc]
  | error fault => simp [bind, hread]

theorem readAt_eq_error_iff {read : Reader α} {buffer : Bytes} {offset : Nat} {fault : Fault} :
    readAt read buffer offset = .error fault ↔ read (buffer.drop offset) = .error fault := by
  cases hread : read (buffer.drop offset) <;> simp [readAt, hread]

theorem Reads.read_append {read : Reader α} {Form : α → Bytes → Prop} (h : Reads read Form)
    {value : α} {form : Bytes} (hform : Form value form) (rest : Bytes) :
    read (form ++ rest) = .ok (value, rest) :=
  (h _ _ _).mpr ⟨form, rfl, hform⟩

/-- What follows behind the bytes that are read does not matter. -/
theorem Reads.append {read : Reader α} {Form : α → Bytes → Prop} (h : Reads read Form)
    {bytes rest : Bytes} {value : α} (hread : read bytes = .ok (value, rest)) (more : Bytes) :
    read (bytes ++ more) = .ok (value, rest ++ more) := by
  obtain ⟨form, rfl, hform⟩ := (h _ _ _).mp hread
  rw [List.append_assoc]
  exact h.read_append hform (rest ++ more)

/-- Inside a buffer a reader takes the form that stands at the offset. -/
theorem Reads.readAt_eq_ok_iff {read : Reader α} {Form : α → Bytes → Prop} (h : Reads read Form)
    (hforms : ∀ value form, Form value form → form ≠ []) {buffer : Bytes} {offset next : Nat}
    {value : α} :
    readAt read buffer offset = .ok (value, next) ↔
      ∃ form, form <+: buffer.drop offset ∧ next = offset + form.length ∧ Form value form := by
  have hend {a : α} {form rest : Bytes} (hform : Form a form)
      (hsplit : form ++ rest = buffer.drop offset) :
      buffer.length - rest.length = offset + form.length := by
    have hlength := congrArg List.length hsplit
    have hpos := List.length_pos_iff.mpr (hforms a form hform)
    rw [List.length_append, List.length_drop] at hlength
    omega
  constructor
  · intro hread
    simp only [readAt] at hread
    split at hread
    · rename_i found rest hfound
      cases hread
      obtain ⟨form, hsplit, hform⟩ := (h _ _ _).mp hfound
      exact ⟨form, ⟨rest, hsplit.symm⟩, hend hform hsplit.symm, hform⟩
    · cases hread
  · rintro ⟨form, ⟨rest, hsplit⟩, rfl, hform⟩
    have hread := h.read_append hform rest
    simp only [readAt, ← hsplit, hread, hend hform hsplit]

theorem Reads.map {read : Reader α} {Form : α → Bytes → Prop} (h : Reads read Form) (f : α → β) :
    Reads (Reader.map f read) fun value form => ∃ a, Form a form ∧ f a = value := by
  intro bytes value rest
  rw [map_eq_ok_iff]
  constructor
  · rintro ⟨a, hread, rfl⟩
    obtain ⟨form, rfl, hform⟩ := (h _ _ _).mp hread
    exact ⟨form, rfl, a, hform, rfl⟩
  · rintro ⟨form, rfl, a, hform, rfl⟩
    exact ⟨a, h.read_append hform rest, rfl⟩

theorem Reads.bind {read : Reader α} {Form : α → Bytes → Prop} {next : α → Reader β}
    {Next : α → β → Bytes → Prop} (h : Reads read Form) (hnext : ∀ a, Reads (next a) (Next a)) :
    Reads (Reader.bind read next) fun value form =>
      ∃ a first second, form = first ++ second ∧ Form a first ∧ Next a value second := by
  intro bytes value rest
  rw [bind_eq_ok_iff]
  constructor
  · rintro ⟨a, between, hread, hvalue⟩
    obtain ⟨first, rfl, hfirst⟩ := (h _ _ _).mp hread
    obtain ⟨second, rfl, hsecond⟩ := (hnext a _ _ _).mp hvalue
    exact ⟨first ++ second, by rw [List.append_assoc], a, first, second, rfl, hfirst, hsecond⟩
  · rintro ⟨_, rfl, a, first, second, rfl, hfirst, hsecond⟩
    rw [List.append_assoc]
    exact ⟨a, second ++ rest, h.read_append hfirst _, (hnext a).read_append hsecond rest⟩

/-- The same language may be described in other words. -/
theorem Reads.congr {read : Reader α} {Form Other : α → Bytes → Prop} (h : Reads read Form)
    (hforms : ∀ value form, Form value form ↔ Other value form) : Reads read Other := by
  intro bytes value rest
  simp only [h bytes value rest, hforms]

theorem IsCodec.map {read : Reader α} (h : IsCodec read) (f : α → β) :
    IsCodec (Reader.map f read) :=
  fun _ _ hfault => h (map_eq_error_iff.mp hfault)

theorem IsCodec.bind {read : Reader α} {next : α → Reader β} (h : IsCodec read)
    (hnext : ∀ a, IsCodec (next a)) : IsCodec (Reader.bind read next) := by
  intro bytes fault hfault
  rcases bind_eq_error_iff.mp hfault with hread | ⟨value, rest, -, hrest⟩
  · exact h hread
  · exact hnext value hrest

end Reader

theorem takeBytes_reads (count : Nat) :
    (takeBytes count).Reads fun taken form => form = taken ∧ taken.length = count := by
  intro bytes taken rest
  constructor
  · intro h
    simp only [takeBytes] at h
    split at h
    · rename_i hle
      cases h
      exact ⟨_, (List.take_append_drop ..).symm, rfl, List.length_take_of_le hle⟩
    · cases h
  · rintro ⟨_, rfl, rfl, rfl⟩
    simp [takeBytes]

theorem takeBytes_isCodec (count : Nat) : (takeBytes count).IsCodec := by
  intro bytes fault h
  simp only [takeBytes] at h
  split at h
  · cases h
  · cases h
    rfl

end GatewayLogin
