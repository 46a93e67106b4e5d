import RecordSearch.Registry.Basic
import Mathlib.Data.List.Induction

/-!
Descriptors registered one after the other. A name keeps the place of its first descriptor and gets
the last one (`names_insertAll_empty`, `get?_insertAll_empty`).

Registering may be done in stages: first some descriptors by themselves, then what was kept of them
(`putAll_putAll`), selected by name (`filter_putAll`) and under new names, as long as these differ
where the old ones do (`map_putAll`).
-/

namespace RecordSearch

namespace FieldRegistry

def putAll (l : List FieldDescriptor) (ds : List FieldDescriptor) : List FieldDescriptor :=
  ds.foldl (fun l d => putField d l) l

def insertAll (r : FieldRegistry) (ds : List FieldDescriptor) : FieldRegistry :=
  ds.foldl insert r

theorem insertAll_append (r : FieldRegistry) (ds es : List FieldDescriptor) :
    r.insertAll (ds ++ es) = (r.insertAll ds).insertAll es := List.foldl_append

theorem insertAll_eq (r : FieldRegistry) (ds : List FieldDescriptor) :
    r.insertAll ds = ⟨r.recordType, putAll r.fields ds⟩ := by
  induction ds generalizing r with
  | nil => rfl
  | cons d ds ih => exact ih (r.insert d)

/-! ## One descriptor -/

theorem putField_of_not_mem {d : FieldDescriptor} {l : List FieldDescriptor}
    (h : d.name ∉ l.map (·.name)) : putField d l = l ++ [d] := by
  induction l with
  | nil => rfl
  | cons e rest ih =>
    rw [List.map_cons, List.mem_cons, not_or] at h
    rw [putField, if_neg (Ne.symm h.1), ih h.2, List.cons_append]

theorem map_name_putField_of_mem {d : FieldDescriptor} {l : List FieldDescriptor}
    (h : d.name ∈ l.map (·.name)) : (putField d l).map (·.name) = l.map (·.name) := by
  induction l with
  | nil => cases h
  | cons e rest ih =>
    by_cases he : e.name = d.name
    · rw [putField, if_pos he, List.map_cons, List.map_cons, he]
    · rw [List.map_cons, List.mem_cons] at h
      rw [putField, if_neg he, List.map_cons, List.map_cons, ih (h.resolve_left (Ne.symm he))]

theorem putField_putField_self {d e : FieldDescriptor} (h : e.name = d.name)
    (l : List FieldDescriptor) : putField d (putField e l) = putField d l := by
  induction l with
  | nil => simp [putField, h]
  | cons x rest ih =>
    by_cases hx : x.name = d.name
    · simp [putField, h, hx]
    · simp [putField, h, hx, ih]

/-- The place of a name that is there does not depend on what is registered after it. -/
theorem putField_comm {d e : FieldDescriptor} (hne : e.name ≠ d.name) {l : List FieldDescriptor}
    (h : d.name ∈ l.map (·.name)) : putField d (putField e l) = putField e (putField d l) := by
  induction l with
  | nil => cases h
  | cons x rest ih =>
    rw [List.map_cons, List.mem_cons] at h
    by_cases hd : x.name = d.name
    · simp [putField, hd, Ne.symm hne]
    · have ih := ih (h.resolve_left (Ne.symm hd))
      by_cases he : x.name = e.name
      · simp [putField, he, hne]
      · simp [putField, he, hd, ih]

theorem filter_putField (keep : String → Bool) (d : FieldDescriptor) (l : List FieldDescriptor) :
    (putField d l).filter (fun f => keep f.name) =
      if keep d.name then putField d (l.filter fun f => keep f.name)
      else l.filter fun f => keep f.name := by
  induction l with
  | nil => cases h : keep d.name <;> simp [putField, h]
  | cons e rest ih =>
    by_cases he : e.name = d.name
    · cases h : keep d.name <;> simp [putField, he, h]
    · cases h : keep d.name <;> cases h' : keep e.name <;> simp [putField, he, h', ih, h]

theorem map_putField {f : FieldDescriptor → FieldDescriptor}
    (hf : ∀ a b, (f a).name = (f b).name ↔ a.name = b.name) (d : FieldDescriptor)
    (l : List FieldDescriptor) : (putField d l).map f = putField (f d) (l.map f) := by
  induction l with
  | nil => rfl
  | cons e rest ih =>
    by_cases he : e.name = d.name
    · simp [putField, he, (hf e d).mpr he]
    · simp [putField, he, mt (hf e d).mp he, ih]

/-! ## Many descriptors -/

theorem mem_map_name_putField {d : FieldDescriptor} {l : List FieldDescriptor} {name : String} :
    name ∈ (putField d l).map (·.name) ↔ name = d.name ∨ name ∈ l.map (·.name) :=
  mem_names_insert (r := ⟨"", l⟩)

theorem putField_putAll {d : FieldDescriptor} {l : List FieldDescriptor}
    (h : d.name ∈ l.map (·.name)) {ds : List FieldDescriptor} (hnot : d.name ∉ ds.map (·.name)) :
    putField d (putAll l ds) = putAll (putField d l) ds := by
  induction ds generalizing l with
  | nil => rfl
  | cons e rest ih =>
    rw [List.map_cons, List.mem_cons, not_or] at hnot
    rw [putAll, putAll, List.foldl_cons, List.foldl_cons, ← putField_comm (Ne.symm hnot.1) h]
    exact ih (mem_map_name_putField.mpr (.inr h)) hnot.2

theorem putAll_putField {l : List FieldDescriptor} (d : FieldDescriptor)
    {es : List FieldDescriptor} (hes : (es.map (·.name)).Nodup) :
    putAll l (putField d es) = putField d (putAll l es) := by
  induction es generalizing l with
  | nil => rfl
  | cons e rest ih =>
    rw [List.map_cons, List.nodup_cons] at hes
    by_cases he : e.name = d.name
    · rw [he] at hes
      have hmem : d.name ∈ (putField e l).map (·.name) :=
        mem_map_name_putField.mpr (.inl he.symm)
      calc putAll l (putField d (e :: rest))
        _ = putAll (putField d l) rest := by rw [putField, if_pos he]; rfl
        _ = putAll (putField d (putField e l)) rest := by rw [putField_putField_self he]
        _ = putField d (putAll (putField e l) rest) := (putField_putAll hmem hes.1).symm
        _ = putField d (putAll l (e :: rest)) := rfl
    · rw [putField, if_neg he]
      exact ih hes.2

theorem nodup_putField {d : FieldDescriptor} {l : List FieldDescriptor}
    (h : (l.map (·.name)).Nodup) : ((putField d l).map (·.name)).Nodup :=
  nodup_names_insert (r := ⟨"", l⟩) h

/-- What was registered in between may be registered at once. -/
theorem putAll_putAll (l : List FieldDescriptor) {es : List FieldDescriptor}
    (hes : (es.map (·.name)).Nodup) (ds : List FieldDescriptor) :
    putAll l (putAll es ds) = putAll (putAll l es) ds := by
  induction ds generalizing es with
  | nil => rfl
  | cons d ds ih =>
    calc putAll l (putAll es (d :: ds))
      _ = putAll (putAll l (putField d es)) ds := ih (nodup_putField hes)
      _ = putAll (putField d (putAll l es)) ds := by rw [putAll_putField d hes]
      _ = putAll (putAll l es) (d :: ds) := rfl

theorem filter_putAll (keep : String → Bool) (l ds : List FieldDescriptor) :
    (putAll l ds).filter (fun f => keep f.name) =
      putAll (l.filter fun f => keep f.name) (ds.filter fun f => keep f.name) := by
  induction ds generalizing l with
  | nil => rfl
  | cons d ds ih =>
    have h := ih (putField d l)
    rw [filter_putField] at h
    cases hd : keep d.name with
    | true =>
      rw [hd] at h
      rw [List.filter_cons_of_pos (by exact hd)]
      exact h
    | false =>
      rw [hd] at h
      rw [List.filter_cons_of_neg (by simp [hd])]
      exact h

theorem map_putAll {f : FieldDescriptor → FieldDescriptor}
    (hf : ∀ a b, (f a).name = (f b).name ↔ a.name = b.name) (l ds : List FieldDescriptor) :
    (putAll l ds).map f = putAll (l.map f) (ds.map f) := by
  induction ds generalizing l with
  | nil => rfl
  | cons d ds ih =>
    have h := ih (putField d l)
    rwa [map_putField hf] at h

/-! ## What is registered -/

theorem map_name_putField (d : FieldDescriptor) (l : List FieldDescriptor) :
    (putField d l).map (·.name) =
      if d.name ∈ l.map (·.name) then l.map (·.name) else l.map (·.name) ++ [d.name] := by
  by_cases h : d.name ∈ l.map (·.name)
  · rw [if_pos h, map_name_putField_of_mem h]
  · rw [if_neg h, putField_of_not_mem h, List.map_append, List.map_singleton]

theorem mem_putField {d e : FieldDescriptor} {l : List FieldDescriptor} (h : e ∈ putField d l) :
    e = d ∨ e ∈ l := by
  induction l with
  | nil => exact .inl (List.mem_singleton.mp h)
  | cons first rest ih =>
    by_cases hname : first.name = d.name
    · rw [putField, if_pos hname] at h
      rcases List.mem_cons.mp h with rfl | h
      · exact .inl rfl
      · exact .inr (List.mem_cons_of_mem _ h)
    · rw [putField, if_neg hname] at h
      rcases List.mem_cons.mp h with rfl | h
      · exact .inr (List.mem_cons_self ..)
      · exact (ih h).imp_right (List.mem_cons_of_mem _)

theorem mem_fields_insertAll {r : FieldRegistry} {ds : List FieldDescriptor} {e : FieldDescriptor}
    (h : e ∈ (r.insertAll ds).fields) : e ∈ ds ∨ e ∈ r.fields := by
  induction ds generalizing r with
  | nil => exact .inr h
  | cons d ds ih =>
    rcases ih h with h | h
    · exact .inl (List.mem_cons_of_mem _ h)
    · rcases mem_putField h with rfl | h
      · exact .inl (List.mem_cons_self ..)
      · exact .inr h

theorem eraseDups_concat (l : List String) (x : String) :
    (l ++ [x]).eraseDups = if x ∈ l then l.eraseDups else l.eraseDups ++ [x] := by
  by_cases h : x ∈ l
  · simp [List.eraseDups_append, List.removeAll, h]
  · simp [List.eraseDups_append, List.removeAll, List.eraseDups_cons, h]

theorem names_insertAll_empty (recordType : String) (ds : List FieldDescriptor) :
    ((empty recordType).insertAll ds).names = (ds.map (·.name)).eraseDups := by
  induction ds using List.reverseRecOn with
  | nil => rfl
  | append_singleton ds d ih =>
    rw [insertAll_append, List.map_append, List.map_singleton, eraseDups_concat]
    show (putField d ((empty recordType).insertAll ds).fields).map (·.name) = _
    rw [map_name_putField]
    show (if d.name ∈ ((empty recordType).insertAll ds).names
      then ((empty recordType).insertAll ds).names
      else ((empty recordType).insertAll ds).names ++ [d.name]) = _
    rw [ih]
    simp only [List.mem_eraseDups]

theorem get?_insertAll_empty (recordType name : String) (ds : List FieldDescriptor) :
    ((empty recordType).insertAll ds).get? name = (ds.filter (·.name = name)).getLast? := by
  induction ds using List.reverseRecOn with
  | nil => rfl
  | append_singleton ds d ih =>
    rw [insertAll_append]
    show (((empty recordType).insertAll ds).insert d).get? name = _
    by_cases h : d.name = name
    · rw [← h, get?_insert_self]
      simp
    · rw [get?_insert_of_ne (Ne.symm h), ih]
      simp [h]

end FieldRegistry

end RecordSearch
