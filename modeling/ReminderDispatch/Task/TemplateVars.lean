/-!
# Variables of templates

The texts that a mail template is filled with, by name. The names are in order and no name is
there twice, so equal contents are equal values.
-/

namespace ReminderDispatch

/-- Texts by name. -/
structure TemplateVars where
  /-- The names with their texts, in the order of the names. -/
  toList : List (String × String)
  /-- The names are in order, each once. -/
  ordered : toList.Pairwise (fun a b => a.1 < b.1)
  deriving DecidableEq, Repr

namespace TemplateVars

/-- No variables. -/
def empty : TemplateVars := ⟨[], .nil⟩

instance : Inhabited TemplateVars := ⟨empty⟩

/-- Put a text under a name into an ordered list; it takes the place of an earlier text. -/
def insertEntry (name text : String) : List (String × String) → List (String × String)
  | [] => [(name, text)]
  | entry :: more =>
    if name < entry.1 then (name, text) :: entry :: more
    else if entry.1 < name then entry :: insertEntry name text more
    else (name, text) :: more

/-- An entry of a list after an insertion is the new one or was there before. -/
theorem mem_insertEntry {name text : String} {entries : List (String × String)}
    {entry : String × String} (h : entry ∈ insertEntry name text entries) :
    entry = (name, text) ∨ entry ∈ entries := by
  induction entries with
  | nil => simpa [insertEntry] using h
  | cons first more ih =>
    unfold insertEntry at h
    split at h
    · simpa using h
    · split at h
      · rcases List.mem_cons.1 h with same | rest
        · exact .inr (by simp [same])
        · exact (ih rest).imp_right (List.mem_cons_of_mem _)
      · rcases List.mem_cons.1 h with same | rest
        · exact .inl same
        · exact .inr (List.mem_cons_of_mem _ rest)

/-- An insertion keeps the order. -/
theorem pairwise_insertEntry (name text : String) (entries : List (String × String))
    (ordered : entries.Pairwise (fun a b => a.1 < b.1)) :
    (insertEntry name text entries).Pairwise (fun a b => a.1 < b.1) := by
  induction entries with
  | nil => simp [insertEntry]
  | cons first more ih =>
    obtain ⟨before, rest⟩ := List.pairwise_cons.1 ordered
    unfold insertEntry
    split
    · rename_i less
      refine List.pairwise_cons.2 ⟨fun entry at_ => ?_, ordered⟩
      rcases List.mem_cons.1 at_ with same | later
      · simpa [same] using less
      · exact String.lt_trans less (before entry later)
    · split
      · rename_i less
        refine List.pairwise_cons.2 ⟨fun entry at_ => ?_, ih rest⟩
        rcases mem_insertEntry at_ with same | later
        · simpa [same] using less
        · exact before entry later
      · rename_i notLess notGreater
        have same : first.1 = name :=
          String.le_antisymm (String.not_lt.1 notLess) (String.not_lt.1 notGreater)
        refine List.pairwise_cons.2 ⟨fun entry later => ?_, rest⟩
        simpa [← same] using before entry later

/-- Put a text under a name, in place of an earlier one. -/
def insert (vars : TemplateVars) (name text : String) : TemplateVars :=
  ⟨insertEntry name text vars.toList, pairwise_insertEntry name text vars.toList vars.ordered⟩

/-- The variables of a list; of two texts under one name the later counts. -/
def ofList (entries : List (String × String)) : TemplateVars :=
  entries.foldl (fun vars (name, text) => vars.insert name text) empty

/-- The text under a name. -/
def get? (vars : TemplateVars) (name : String) : Option String := vars.toList.lookup name

end TemplateVars

end ReminderDispatch
