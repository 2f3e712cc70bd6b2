import ThemedViews.Table

/-!
# Entries of tables

What is in a table after entries were put in, and where.  The latest entry under
a key is the one that is found, and a table stays in the order of its keys.
-/

namespace ThemedViews

namespace Table

variable {α : Type} {key : String} {value : α} {entry : String × α}

theorem eq_or_mem_of_mem_insert {table : Table α} (member : entry ∈ insert key value table) :
    entry = (key, value) ∨ entry ∈ table := by
  induction table with
  | nil => exact .inl (List.mem_singleton.mp member)
  | cons other rest ih =>
      unfold insert at member
      split at member
      · exact List.mem_cons.mp member
      · split at member
        · rcases List.mem_cons.mp member with same | later
          · exact .inl same
          · exact .inr (List.mem_cons_of_mem other later)
        · rcases List.mem_cons.mp member with same | later
          · exact .inr (same ▸ List.mem_cons_self)
          · exact (ih later).imp_right (List.mem_cons_of_mem other)

theorem mem_insert_self (key : String) (value : α) (table : Table α) :
    (key, value) ∈ insert key value table := by
  induction table with
  | nil => exact List.mem_singleton.mpr rfl
  | cons other rest ih =>
      unfold insert
      split
      · exact List.mem_cons_self
      · split
        · exact List.mem_cons_self
        · exact List.mem_cons_of_mem _ ih

theorem mem_insert_of_ne {table : Table α} (member : entry ∈ table) (different : entry.1 ≠ key) :
    entry ∈ insert key value table := by
  induction table with
  | nil => cases member
  | cons other rest ih =>
      unfold insert
      split
      · exact List.mem_cons_of_mem _ member
      · split
        · next same =>
            rcases List.mem_cons.mp member with first | later
            · exact absurd (first ▸ same.symm) different
            · exact List.mem_cons_of_mem _ later
        · rcases List.mem_cons.mp member with first | later
          · exact first ▸ List.mem_cons_self
          · exact List.mem_cons_of_mem _ (ih later)

theorem eq_or_lookup_of_lookup_insert {table : Table α} {sought : String} {found : α}
    (isFound : (insert key value table).lookup sought = some found) :
    found = value ∨ table.lookup sought = some found := by
  by_cases same : sought = key
  · rw [same, lookup_insert_self, Option.some.injEq] at isFound
    exact .inl isFound.symm
  · rw [lookup_insert_of_ne same] at isFound
    exact .inr isFound

theorem mem_or_mem_of_mem_overlay {base above : Table α} (member : entry ∈ overlay base above) :
    entry ∈ base ∨ entry ∈ above := by
  induction above generalizing base with
  | nil => exact .inl member
  | cons first rest ih =>
      rcases ih member with inserted | later
      · rcases eq_or_mem_of_mem_insert inserted with same | kept
        · exact .inr (same ▸ List.mem_cons_self)
        · exact .inl kept
      · exact .inr (List.mem_cons_of_mem first later)

/-- What lies below is seen where nothing lies above. -/
theorem mem_overlay_of_not_mem_keys {base above : Table α} (member : entry ∈ base)
    (unbound : entry.1 ∉ keys above) : entry ∈ overlay base above := by
  induction above generalizing base with
  | nil => exact member
  | cons first rest ih =>
      rw [keys, List.map_cons, List.mem_cons, not_or] at unbound
      exact ih (mem_insert_of_ne member unbound.1) unbound.2

theorem lookup_cons (key other : String) (old : α) (rest : List (String × α)) :
    List.lookup key ((other, old) :: rest) = if key = other then some old else rest.lookup key := by
  by_cases same : key = other <;> simp [List.lookup_cons, same, beq_false_of_ne]

theorem lookup_eq_none_of_not_mem_keys {table : List (String × α)} (unbound : key ∉ keys table) :
    table.lookup key = none :=
  List.lookup_eq_none_iff.mpr fun found member =>
    bne_iff_ne.mpr fun same => unbound (List.mem_map.mpr ⟨found, member, same.symm⟩)

theorem exists_lookup_of_mem_keys {table : List (String × α)} (bound : key ∈ keys table) :
    ∃ value, table.lookup key = some value := by
  induction table with
  | nil => cases bound
  | cons entry rest ih =>
      obtain ⟨other, old⟩ := entry
      rw [lookup_cons]
      by_cases same : key = other
      · exact ⟨old, if_pos same⟩
      · rw [if_neg same]
        exact ih ((List.mem_cons.mp bound).resolve_left same)

theorem contains_iff {table : Table α} : contains key table = true ↔ key ∈ keys table := by
  simp [contains, keys]

theorem lookup_reverse {table : List (String × α)} (distinct : (keys table).Nodup) (key : String) :
    table.reverse.lookup key = table.lookup key := by
  induction table with
  | nil => rfl
  | cons entry rest ih =>
      obtain ⟨other, old⟩ := entry
      obtain ⟨fresh, others⟩ := List.nodup_cons.mp distinct
      rw [List.reverse_cons, List.lookup_append, ih others]
      by_cases same : key = other
      · subst same
        simp [lookup_eq_none_of_not_mem_keys fresh]
      · simp [lookup_cons, same]

/-- The last entry under a key that lies above is seen, and what lies below where
nothing lies above. -/
theorem lookup_overlay_eq_reverse (base above : Table α) (key : String) :
    (overlay base above).lookup key = (above.reverse.lookup key).or (base.lookup key) := by
  induction above generalizing base with
  | nil => rfl
  | cons entry rest ih =>
      obtain ⟨other, value⟩ := entry
      have below : (overlay base ((other, value) :: rest)).lookup key =
          (rest.reverse.lookup key).or ((insert other value base).lookup key) := ih _
      rw [below, List.reverse_cons, List.lookup_append, Option.or_assoc, lookup_cons]
      by_cases same : key = other
      · subst same
        simp [lookup_insert_self]
      · simp [same, lookup_insert_of_ne same]

theorem lookup_overlay {above : Table α} (distinct : (keys above).Nodup) (base : Table α) (key : String) :
    (overlay base above).lookup key = (above.lookup key).or (base.lookup key) := by
  rw [lookup_overlay_eq_reverse, lookup_reverse distinct]

/-- Of several entries with one key the last counts. -/
theorem lookup_ofList (entries : List (String × α)) (key : String) :
    (ofList entries).lookup key = entries.reverse.lookup key :=
  (lookup_overlay_eq_reverse [] entries key).trans (Option.or_none)

theorem sorted_cons {rest : List (String × α)} :
    Sorted (entry :: rest) ↔ (∀ key ∈ keys rest, entry.1 < key) ∧ Sorted rest :=
  List.pairwise_cons

theorem Sorted.nodup {table : Table α} (sorted : Sorted table) : (keys table).Nodup :=
  List.Pairwise.imp (fun earlier => fun | rfl => String.lt_irrefl _ earlier) sorted

theorem mem_keys_insert {table : Table α} {sought : String}
    (member : sought ∈ keys (insert key value table)) : sought = key ∨ sought ∈ keys table := by
  obtain ⟨found, inserted, rfl⟩ := List.mem_map.mp member
  rcases eq_or_mem_of_mem_insert inserted with same | kept
  · exact .inl (congrArg Prod.fst same)
  · exact .inr (List.mem_map_of_mem kept)

theorem Sorted.insert {table : Table α} (sorted : Sorted table) (key : String) (value : α) :
    Sorted (insert key value table) := by
  induction table with
  | nil => exact List.pairwise_singleton _ key
  | cons entry rest ih =>
      obtain ⟨other, old⟩ := entry
      obtain ⟨least, others⟩ := sorted_cons.mp sorted
      unfold Table.insert
      split
      · next less =>
          refine sorted_cons.mpr ⟨fun later member => ?_, sorted⟩
          rcases List.mem_cons.mp member with rfl | inRest
          · exact less
          · exact String.lt_trans less (least later inRest)
      · next notLess =>
          split
          · next same => exact sorted_cons.mpr ⟨same ▸ least, others⟩
          · next different =>
              have greater : other < key := by
                refine Decidable.not_not.mp fun notGreater => different ?_
                exact String.le_antisymm (String.not_lt.mp notGreater) (String.not_lt.mp notLess)
              refine sorted_cons.mpr ⟨fun later member => ?_, ih others⟩
              rcases mem_keys_insert member with rfl | inRest
              · exact greater
              · exact least later inRest

theorem Sorted.overlay {base : Table α} (sorted : Sorted base) (above : Table α) :
    Sorted (overlay base above) := by
  induction above generalizing base with
  | nil => exact sorted
  | cons entry rest ih => exact ih (sorted.insert entry.1 entry.2)

/-- A key behind all others comes at the end. -/
theorem insert_of_forall_lt {table : Table α} (behind : ∀ other ∈ keys table, other < key) (value : α) :
    insert key value table = table ++ [(key, value)] := by
  induction table with
  | nil => rfl
  | cons entry rest ih =>
      obtain ⟨before, later⟩ := List.forall_mem_cons.mp behind
      have notLess : ¬ key < entry.1 := String.lt_asymm before
      have different : key ≠ entry.1 := fun same => String.lt_irrefl key (same ▸ before)
      rw [insert, if_neg notLess, if_neg different, ih later]
      rfl

@[simp]
theorem insert_insert_self (key : String) (value old : α) (table : Table α) :
    insert key value (insert key old table) = insert key value table := by
  induction table with
  | nil => simp [insert]
  | cons entry rest ih =>
      obtain ⟨other, found⟩ := entry
      unfold insert
      by_cases less : key < other
      · simp [less, insert]
      · by_cases same : key = other
        · simp [same, insert]
        · simp [less, same, insert, ih]

theorem sorted_nil : Sorted ([] : Table α) :=
  List.Pairwise.nil

theorem sorted_ofList (entries : List (String × α)) : Sorted (ofList entries) :=
  sorted_nil.overlay entries

theorem Sorted.mem_iff_lookup {table : Table α} (sorted : Sorted table) :
    (key, value) ∈ table ↔ table.lookup key = some value := by
  induction table with
  | nil => simp
  | cons entry rest ih =>
      obtain ⟨least, others⟩ := sorted_cons.mp sorted
      obtain ⟨other, old⟩ := entry
      rw [lookup_cons, List.mem_cons, Prod.mk.injEq, ih others]
      split
      · next same =>
          have unbound : key ∉ keys rest := fun bound => String.lt_irrefl key (same ▸ least key bound)
          rw [lookup_eq_none_of_not_mem_keys unbound, Option.some.injEq, eq_comm (a := old)]
          exact ⟨fun | .inl ⟨_, found⟩ => found, fun found => .inl ⟨same, found⟩⟩
      · next different => simp [different]

/-- What is found in it determines a sorted table. -/
theorem Sorted.eq_of_lookup_eq {table other : Table α} (sorted : Sorted table) (otherSorted : Sorted other)
    (alike : ∀ key, table.lookup key = other.lookup key) : table = other := by
  have members : ∀ entry, entry ∈ table ↔ entry ∈ other := by
    intro entry
    rw [sorted.mem_iff_lookup, otherSorted.mem_iff_lookup, alike]
  have ordered := List.pairwise_map.mp sorted
  have otherOrdered := List.pairwise_map.mp otherSorted
  have differ : ∀ {entry later : String × α}, entry.1 < later.1 → entry ≠ later := by
    rintro entry _ less rfl
    exact String.lt_irrefl entry.1 less
  have alikeUpToOrder := (List.perm_ext_iff_of_nodup (ordered.imp differ) (otherOrdered.imp differ)).mpr members
  refine alikeUpToOrder.eq_of_pairwise ?_ ordered otherOrdered
  exact fun entry later _ _ before behind => absurd behind (String.lt_asymm before)

theorem Sorted.insert_eq_self {table : Table α} (sorted : Sorted table) (found : table.lookup key = some value) :
    Table.insert key value table = table := by
  refine (sorted.insert key value).eq_of_lookup_eq sorted fun sought => ?_
  by_cases same : sought = key
  · rw [same, lookup_insert_self, found]
  · rw [lookup_insert_of_ne same]

theorem Sorted.insert_comm {table : Table α} (sorted : Sorted table) {other : String} (different : key ≠ other)
    (value text : α) :
    Table.insert other text (Table.insert key value table) =
      Table.insert key value (Table.insert other text table) := by
  refine ((sorted.insert ..).insert ..).eq_of_lookup_eq ((sorted.insert ..).insert ..) fun sought => ?_
  by_cases same : sought = key
  · rw [same, lookup_insert_of_ne different, lookup_insert_self, lookup_insert_self]
  · rw [lookup_insert_of_ne same]
    by_cases alike : sought = other
    · rw [alike, lookup_insert_self, lookup_insert_self]
    · rw [lookup_insert_of_ne alike, lookup_insert_of_ne alike, lookup_insert_of_ne same]

/-- One more item counts if it is new. -/
theorem eraseDups_concat [BEq α] [LawfulBEq α] (items : List α) (item : α) : (items ++ [item]).eraseDups =
    if item ∈ items then items.eraseDups else items.eraseDups ++ [item] := by
  rw [List.eraseDups_append]
  split
  · next known => simp [List.removeAll, known]
  · next fresh => simp [List.removeAll, fresh, List.eraseDups_cons]

end Table

end ThemedViews
