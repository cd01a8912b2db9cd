/-! # Looking up in a list of entries

The objects of a client in memory and the entries of a directory are lists of named values, and
the value of a name is that of its first entry.
-/

namespace PipelineDepot.Association

variable {α β : Type} [BEq α] [LawfulBEq α] [DecidableEq α]

theorem lookup_cons_ite (name query : α) (value : β) (entries : List (α × β)) :
    ((name, value) :: entries).lookup query =
      if query = name then some value else entries.lookup query := by
  by_cases asked : query = name
  · simp only [List.lookup_cons, asked, beq_self_eq_true, ↓reduceIte]
  · simp only [List.lookup_cons, asked, beq_eq_false_iff_ne.mpr asked, ↓reduceIte]

/-- Taking all entries of a name away takes away what the name stands for and nothing else. -/
theorem lookup_filter_ne (name query : α) (entries : List (α × β)) :
    (entries.filter (·.1 ≠ name)).lookup query =
      if query = name then none else entries.lookup query := by
  induction entries with
  | nil => simp
  | cons entry rest ih =>
      obtain ⟨other, value⟩ := entry
      by_cases kept : other = name
      · subst kept
        simp only [List.filter_cons, ne_eq, not_true_eq_false, decide_false, Bool.false_eq_true,
          ↓reduceIte, ih, List.lookup_cons]
        by_cases asked : query = other
        · simp only [asked, ↓reduceIte]
        · simp only [asked, ↓reduceIte, beq_eq_false_iff_ne.mpr asked]
      · simp only [List.filter_cons, ne_eq, kept, not_false_eq_true, decide_true, ↓reduceIte,
          List.lookup_cons, ih]
        by_cases asked : query = other
        · subst asked
          simp only [beq_self_eq_true, kept, ↓reduceIte]
        · simp only [beq_eq_false_iff_ne.mpr asked]

omit [DecidableEq α] in
/-- A name that stands for something is the name of an entry. -/
theorem mem_map_fst_iff (name : α) (entries : List (α × β)) :
    name ∈ entries.map (·.1) ↔ ∃ value, entries.lookup name = some value := by
  induction entries with
  | nil => simp
  | cons entry rest ih =>
      obtain ⟨other, value⟩ := entry
      rw [List.map_cons, List.mem_cons, ih, List.lookup_cons]
      by_cases same : name = other
      · subst same
        simp
      · simp [same, beq_eq_false_iff_ne.mpr same]

end PipelineDepot.Association
