import LayeredConfig.Catalogue.Basic
import LayeredConfig.Proofs.Members
import LayeredConfig.Snapshot.KeyedMap

/-!
# Merging maps with several spellings of a key

A merge holds at each key what the two sides hold there, under the weaker side's spelling of the key. If
both sides spell equal keys alike, this is the merge of maps with text keys; otherwise the stronger side's
spelling is lost with everything that was written under it.
-/
set_option autoImplicit false

namespace LayeredConfig

namespace Keyed

variable {κ α : Type} [DecidableEq κ] {key : String → κ}

theorem entry_put (spelling : String) (value : α) (entries : Members α) (wanted : κ) :
    held? key wanted (put key spelling value entries) =
      if key spelling = wanted then
        some ((held? key wanted entries).elim spelling Prod.fst, value)
      else held? key wanted entries := by
  induction entries with
  | nil => by_cases same : key spelling = wanted <;> simp [put, held?, same]
  | cons entry rest ih =>
      obtain ⟨other, held⟩ := entry
      simp only [held?, put] at ih ⊢
      by_cases here : key other = key spelling
      · rw [if_pos here]
        by_cases same : key spelling = wanted <;> simp [here, same]
      · rw [if_neg here]
        by_cases same : key other = wanted
        · have different : key spelling ≠ wanted := fun equal => here (same.trans equal.symm)
          simp [same, different]
        · simp only [List.find?_cons_of_neg, same, decide_false, Bool.false_eq_true,
            not_false_eq_true, ih]

theorem entry_of_fresh (entries : Members α) (wanted : κ)
    (fresh : wanted ∉ entries.map fun entry => key entry.1) : held? key wanted entries = none := by
  refine List.find?_eq_none.2 fun entry member same => fresh ?_
  exact List.mem_map.2 ⟨entry, member, by simpa using same⟩

/-- A merge holds at a key the merge of what both sides hold there, in the weaker side's spelling. -/
theorem entry_merge [Mergeable α] (strong weak : Members α) (distinct : Distinct key strong)
    (wanted : κ) : held? key wanted (mergeEntries key strong weak) =
      (held? key wanted strong).elim (held? key wanted weak) fun own =>
        some ((held? key wanted weak).elim own fun below => (below.1, merge own.2 below.2)) := by
  induction strong with
  | nil => rfl
  | cons entry rest ih =>
      obtain ⟨spelling, value⟩ := entry
      obtain ⟨fresh, restDistinct⟩ := List.nodup_cons.1 distinct
      rw [mergeEntries, entry_put, ih restDistinct]
      by_cases same : key spelling = wanted
      · subst same
        have here : held? key (key spelling) ((spelling, value) :: rest) = some (spelling, value) := by
          simp [held?]
        rw [if_pos rfl, entry_of_fresh rest _ fresh, here]
        cases held? key (key spelling) weak <;> rfl
      · have skipped : held? key wanted ((spelling, value) :: rest) = held? key wanted rest := by
          simp [held?, same]
        rw [if_neg same, skipped]

theorem find_eq_entry (entries : Members α) (distinct : Distinct key entries) (spelling : String) :
    Members.find? spelling entries =
      (held? key (key spelling) entries).bind fun entry =>
        if entry.1 = spelling then some entry.2 else none := by
  induction entries with
  | nil => rfl
  | cons entry rest ih =>
      obtain ⟨other, value⟩ := entry
      obtain ⟨fresh, restDistinct⟩ := List.nodup_cons.1 distinct
      have restFound := ih restDistinct
      by_cases spelled : other = spelling
      · subst spelled
        simp [Members.find?, held?]
      · rw [Members.find?, if_neg spelled, restFound]
        by_cases same : key other = key spelling
        · rw [entry_of_fresh rest _ (same ▸ fresh)]
          simp [held?, same, spelled]
        · simp [held?, same]

theorem entry_of_mem (entries : Members α) (distinct : Distinct key entries) (entry : String × α)
    (member : entry ∈ entries) : held? key (key entry.1) entries = some entry := by
  induction entries with
  | nil => cases member
  | cons first rest ih =>
      obtain ⟨fresh, restDistinct⟩ := List.nodup_cons.1 distinct
      rcases List.mem_cons.1 member with rfl | inRest
      · simp [held?]
      · have different : key first.1 ≠ key entry.1 := by
          intro same
          exact fresh (List.mem_map.2 ⟨entry, inRest, same.symm⟩)
        simpa [held?, different] using ih restDistinct inRest

/-- Where the sides spell a key differently, a merge has nothing under the stronger side's spelling. -/
theorem find_merge_respelled [Mergeable α] (strong weak : Members α) (distinct : Distinct key strong)
    (weakDistinct : Distinct key weak) (own below : String × α) (inStrong : own ∈ strong)
    (inWeak : below ∈ weak) (same : key own.1 = key below.1) (respelled : own.1 ≠ below.1) :
    Members.find? own.1 (mergeEntries key strong weak) = none := by
  have above := entry_of_mem strong distinct own inStrong
  have under := entry_of_mem weak weakDistinct below inWeak
  rw [find_eq_entry _ weakDistinct.merge, entry_merge strong weak distinct, above, same, under]
  simp [respelled.symm]

/-- Where both sides spell equal keys alike, the merge is that of maps with text keys. -/
theorem find_merge_of_alike [Mergeable α] (strong weak : Members α) (distinct : Distinct key strong)
    (weakDistinct : Distinct key weak)
    (alike : ∀ own ∈ strong, ∀ below ∈ weak, key own.1 = key below.1 → own.1 = below.1)
    (spelling : String) :
    Members.find? spelling (mergeEntries key strong weak) =
      Members.find? spelling (Members.union merge strong weak) := by
  have found (entries : Members α) (entry : String × α)
      (here : held? key (key spelling) entries = some entry) :
      entry ∈ entries ∧ key entry.1 = key spelling :=
    ⟨List.mem_of_find?_eq_some here, by simpa using List.find?_some here⟩
  rw [Members.find_union, find_eq_entry _ weakDistinct.merge, entry_merge strong weak distinct,
    find_eq_entry strong distinct, find_eq_entry weak weakDistinct]
  cases above : held? key (key spelling) strong with
  | none => rfl
  | some own =>
      cases under : held? key (key spelling) weak with
      | none => by_cases spelled : own.1 = spelling <;> simp [spelled]
      | some below =>
          obtain ⟨inStrong, ownKey⟩ := found strong own above
          obtain ⟨inWeak, belowKey⟩ := found weak below under
          have same := alike own inStrong below inWeak (ownKey.trans belowKey.symm)
          by_cases spelled : below.1 = spelling <;> simp [same, spelled]

theorem split_slashes_ne_nil (text : List Char) : splitSlashes text ≠ [] := by
  cases text with
  | nil => simp [splitSlashes]
  | cons c rest =>
      rw [splitSlashes]
      split
      · simp
      · split <;> simp

theorem split_slashes_slash (text : List Char) :
    splitSlashes (text ++ ['/']) = splitSlashes text ++ [[]] := by
  induction text with
  | nil => simp [splitSlashes]
  | cons c text ih =>
      by_cases slash : c = '/'
      · simp [splitSlashes, slash, ih]
      · cases pieces : splitSlashes text with
        | nil => exact absurd pieces (split_slashes_ne_nil text)
        | cons piece more => simp [splitSlashes, slash, ih, pieces]

theorem split_slashes_cons (c : Char) (rest : List Char) : splitSlashes (c :: rest) ≠ [[]] := by
  rw [splitSlashes]
  split
  · simp [split_slashes_ne_nil]
  · split <;> simp

theorem file_components_slash (path : String) (named : path ≠ "") :
    fileComponents (path ++ "/") = fileComponents path := by
  have text : (path ++ "/").toList = path.toList ++ ['/'] := by simp
  rw [fileComponents, fileComponents, text, split_slashes_slash]
  cases chars : path.toList with
  | nil => exact absurd (String.toList_eq_nil_iff.1 chars) named
  | cons c rest =>
      have unnamed : [[]].filter namesComponent = [] := rfl
      cases pieces : splitSlashes (c :: rest) with
      | nil => exact absurd pieces (split_slashes_ne_nil _)
      | cons first others =>
          cases others with
          | nil =>
              have first_ne : first ≠ [] := by
                rintro rfl
                exact split_slashes_cons c rest pieces
              simp [first_ne, unnamed]
          | cons second others =>
              simp only [List.cons_append, List.filter_cons, List.filter_append, unnamed,
                List.append_nil]

end Keyed

abbrev FileNumbers := KeyedMap fileComponents (Snapshot (Catalogue.model (Catalogue.unsigned 32)))

def FileNumbers.single (path : String) (number : Int) : FileNumbers :=
  ⟨[(path, ⟨.atom (.int number)⟩)], List.pairwise_singleton _ _⟩

end LayeredConfig
