import FindQuery.Filter.Tree
import Mathlib.Data.List.Nodup

namespace FindQuery

namespace Fields

variable {α : Type}

theorem keys_merge (fs gs : Fields α) :
    (merge fs gs).keys = fs.keys ++ (gs.keys.removeAll fs.keys).eraseDups := by
  induction gs generalizing fs with
  | nil => exact (List.append_nil fs.keys).symm
  | cons e gs ih =>
    obtain ⟨k, v⟩ := e
    rw [merge_cons, ih, keys_insert]
    have hcons : keys ((k, v) :: gs) = k :: keys gs := rfl
    by_cases hk : k ∈ fs.keys
    · rw [if_pos hk, hcons]
      simp only [List.removeAll, List.filter_cons, List.elem_eq_contains, List.contains_eq_mem, hk,
        decide_true, Bool.not_true, Bool.false_eq_true, ↓reduceIte]
    · rw [if_neg hk, hcons]
      simp only [List.removeAll, List.filter_cons, List.elem_eq_contains, List.contains_eq_mem, hk,
        decide_false, Bool.not_false, ↓reduceIte, List.eraseDups_cons, List.filter_filter,
        List.append_assoc, List.singleton_append, List.mem_append, List.mem_singleton]
      congr 3
      apply List.filter_congr
      intro l _
      by_cases hl : l = k <;> simp [hl]

theorem keys_ofList (pairs : List (Text × α)) :
    (ofList pairs).keys = (pairs.map Prod.fst).eraseDups := by
  have h := keys_merge [] pairs
  rwa [show keys ([] : Fields α) = [] from rfl, List.removeAll_nil, List.nil_append] at h

theorem find?_merge (fs gs : Fields α) (k : Text) :
    (merge fs gs).find? k =
      ((gs.reverse.find? fun e => e.1 = k).map Prod.snd).or (fs.find? k) := by
  induction gs generalizing fs with
  | nil => rfl
  | cons e gs ih =>
    rw [merge_cons, ih, find?_insert, List.reverse_cons, List.find?_append]
    cases List.find? (fun e => e.1 = k) gs.reverse with
    | some d => rfl
    | none =>
      by_cases hk : e.1 = k <;> simp [hk]

theorem find?_ofList (pairs : List (Text × α)) (k : Text) :
    (ofList pairs).find? k = (pairs.reverse.find? fun e => e.1 = k).map Prod.snd := by
  have h := find?_merge [] pairs k
  rwa [show find? k ([] : Fields α) = none from rfl, Option.or_none] at h

theorem nodup_keys_nil : (keys ([] : Fields α)).Nodup := List.nodup_nil

theorem nodup_keys_insert {fs : Fields α} (h : fs.keys.Nodup) (k : Text) (v : α) :
    (fs.insert k v).keys.Nodup := by
  rw [keys_insert]
  split
  · exact h
  · next hk =>
    rw [List.nodup_append]
    refine ⟨h, List.nodup_singleton k, ?_⟩
    intro l hl m hm
    rw [List.mem_singleton.1 hm]
    exact fun he => hk (he ▸ hl)

theorem nodup_keys_merge {fs : Fields α} (h : fs.keys.Nodup) (gs : Fields α) :
    (merge fs gs).keys.Nodup := by
  induction gs generalizing fs with
  | nil => exact h
  | cons e gs ih => exact ih (nodup_keys_insert h e.1 e.2)

theorem insert_insert_self (fs : Fields α) (k : Text) (v w : α) :
    (fs.insert k w).insert k v = fs.insert k v := by
  induction fs with
  | nil => exact if_pos rfl
  | cons e fs ih =>
    obtain ⟨l, u⟩ := e
    by_cases hl : l = k
    · simp only [insert, hl, ↓reduceIte]
    · simp only [insert, hl, ↓reduceIte, ih]

/-- A name that is there keeps its place, so it may be set before another name is. -/
theorem insert_comm {fs : Fields α} {k l : Text} (hk : k ∈ fs.keys) (hne : k ≠ l) (v w : α) :
    (fs.insert l w).insert k v = (fs.insert k v).insert l w := by
  induction fs with
  | nil => cases hk
  | cons e fs ih =>
    obtain ⟨m, u⟩ := e
    by_cases hmk : m = k
    · subst hmk
      simp only [insert, hne, ↓reduceIte]
    · have hrest : k ∈ keys fs := List.mem_of_ne_of_mem (Ne.symm hmk) hk
      by_cases hml : m = l
      · subst hml
        simp only [insert, hmk, ↓reduceIte]
      · simp only [insert, hmk, hml, ↓reduceIte, ih hrest]

theorem insert_merge {fs gs : Fields α} {k : Text} (hfs : k ∈ fs.keys) (hgs : k ∉ gs.keys) (v : α) :
    (merge fs gs).insert k v = merge (fs.insert k v) gs := by
  induction gs generalizing fs with
  | nil => rfl
  | cons e gs ih =>
    have hne : k ≠ e.1 := List.ne_of_not_mem_cons hgs
    have hmem : k ∈ (fs.insert e.1 e.2).keys := by
      rw [keys_insert]
      split
      · exact hfs
      · exact List.mem_append_left _ hfs
    rw [merge_cons, merge_cons, ih hmem (List.not_mem_of_not_mem_cons hgs), insert_comm hfs hne]

theorem merge_insert {gs : Fields α} (h : gs.keys.Nodup) (fs : Fields α) (k : Text) (v : α) :
    merge fs (gs.insert k v) = (merge fs gs).insert k v := by
  induction gs generalizing fs with
  | nil => rfl
  | cons e gs ih =>
    obtain ⟨l, w⟩ := e
    obtain ⟨hl, hgs⟩ := List.nodup_cons.1 h
    by_cases hk : l = k
    · subst hk
      have hmem : l ∈ (fs.insert l w).keys := by
        rw [keys_insert]
        split
        · assumption
        · exact List.mem_append_right _ (.head _)
      rw [insert, if_pos rfl, merge_cons, merge_cons, insert_merge hmem hl, insert_insert_self]
    · rw [insert, if_neg hk, merge_cons, merge_cons, ih hgs]

theorem merge_merge {gs : Fields α} (h : gs.keys.Nodup) (fs hs : Fields α) :
    merge fs (merge gs hs) = merge (merge fs gs) hs := by
  induction hs generalizing gs with
  | nil => rfl
  | cons e hs ih =>
    rw [merge_cons, merge_cons, ih (nodup_keys_insert h e.1 e.2), merge_insert h]

theorem ofList_append (ps qs : List (Text × α)) :
    ofList (ps ++ qs) = (ofList ps).merge (ofList qs) := by
  rw [ofList, merge_append]
  exact (merge_merge nodup_keys_nil _ _).symm

theorem insert_of_not_mem {fs : Fields α} {k : Text} (h : k ∉ fs.keys) (v : α) :
    fs.insert k v = fs ++ [(k, v)] := by
  induction fs with
  | nil => rfl
  | cons e fs ih =>
    have hne : e.1 ≠ k := (List.ne_of_not_mem_cons h).symm
    rw [insert, if_neg hne, ih (List.not_mem_of_not_mem_cons h)]
    rfl

theorem merge_of_nodup {fs gs : Fields α} (h : (fs ++ gs).keys.Nodup) :
    merge fs gs = fs ++ gs := by
  induction gs generalizing fs with
  | nil => exact (List.append_nil fs).symm
  | cons e gs ih =>
    have hkeys : (fs ++ e :: gs).keys = fs.keys ++ e.1 :: keys gs := List.map_append
    have hmem : e.1 ∉ fs.keys := by
      rw [hkeys, List.nodup_append] at h
      exact fun hm => h.2.2 _ hm _ (.head _) rfl
    rw [List.append_cons] at h ⊢
    rw [merge_cons, insert_of_not_mem hmem, ih h]

theorem ofList_of_nodup {fs : Fields α} (h : fs.keys.Nodup) : ofList fs = fs :=
  merge_of_nodup (List.nil_append fs ▸ h)

/-- Maps with the same names in the same order, and the same value for each, are equal. -/
theorem eq_of_find? {fs gs : Fields α} (h : fs.keys.Nodup) (hkeys : fs.keys = gs.keys)
    (hfind : ∀ k, fs.find? k = gs.find? k) : fs = gs := by
  induction fs generalizing gs with
  | nil => exact (List.map_eq_nil_iff.1 hkeys.symm).symm
  | cons e fs ih =>
    cases gs with
    | nil => cases hkeys
    | cons d gs =>
      obtain ⟨k, v⟩ := e
      obtain ⟨l, w⟩ := d
      obtain ⟨hkl, hrest⟩ : k = l ∧ keys fs = keys gs := List.cons.inj hkeys
      obtain ⟨hk, hfs⟩ := List.nodup_cons.1 h
      subst hkl
      have hvalue : v = w := by simpa [find?] using hfind k
      have htail : fs = gs := by
        apply ih hfs hrest
        intro m
        by_cases hm : k = m
        · subst hm
          rw [find?_eq_none_iff.2 hk, find?_eq_none_iff.2 (hrest ▸ hk)]
        · simpa [find?, hm] using hfind m
      rw [hvalue, htail]

theorem find?_merge_of_nodup {gs : Fields α} (hgs : gs.keys.Nodup) (fs : Fields α) (k : Text) :
    (merge fs gs).find? k = (gs.find? k).or (fs.find? k) := by
  rw [find?_merge, ← find?_ofList, ofList_of_nodup hgs]

end Fields

namespace Filter

theorem nodup_keys_mergeNodes (nodes : List (Fields Value)) : (mergeNodes nodes).keys.Nodup := by
  rw [mergeNodes_eq_ofList]
  exact Fields.nodup_keys_merge Fields.nodup_keys_nil nodes.flatten

theorem keys_mergeNodes (nodes : List (Fields Value)) :
    (mergeNodes nodes).keys = (nodes.flatMap Fields.keys).eraseDups := by
  rw [mergeNodes_eq_ofList, Fields.keys_ofList, List.map_flatten]
  rfl

theorem mem_keys_mergeNodes {nodes : List (Fields Value)} {k : Text} :
    k ∈ (mergeNodes nodes).keys ↔ ∃ fs ∈ nodes, k ∈ fs.keys := by
  rw [keys_mergeNodes, List.mem_eraseDups, List.mem_flatMap]

theorem mergeNodes_append (before after : List (Fields Value)) :
    mergeNodes (before ++ after) = (mergeNodes before).merge (mergeNodes after) := by
  simp only [mergeNodes_eq_ofList, List.flatten_append, Fields.ofList_append]

theorem mergeNodes_singleton {fs : Fields Value} (h : fs.keys.Nodup) : mergeNodes [fs] = fs :=
  Fields.ofList_of_nodup h

theorem mergeNodes_cons {fs : Fields Value} (h : fs.keys.Nodup) (nodes : List (Fields Value)) :
    mergeNodes (fs :: nodes) = fs.merge (mergeNodes nodes) := by
  rw [← List.singleton_append, mergeNodes_append, mergeNodes_singleton h]

theorem find?_mergeNodes {nodes : List (Fields Value)} (h : ∀ fs ∈ nodes, fs.keys.Nodup)
    (k : Text) : (mergeNodes nodes).find? k = nodes.reverse.findSome? (·.find? k) := by
  induction nodes with
  | nil => rfl
  | cons fs nodes ih =>
    have hnodes := ih fun gs hgs => h gs (.tail _ hgs)
    rw [mergeNodes_cons (h fs (.head _)), Fields.find?_merge_of_nodup (nodup_keys_mergeNodes nodes),
      hnodes, List.reverse_cons, List.findSome?_append, List.findSome?_singleton]

/-- Maps that are merged in rounds, and then with each other, are merged as they are all at once. -/
theorem mergeNodes_map_mergeNodes (rounds : List (List (Fields Value))) :
    mergeNodes (rounds.map mergeNodes) = mergeNodes rounds.flatten := by
  induction rounds with
  | nil => rfl
  | cons nodes rounds ih =>
    rw [List.map_cons, mergeNodes_cons (nodup_keys_mergeNodes nodes), ih, List.flatten_cons,
      mergeNodes_append]

/-- A map merged from others has the names of all of them in the order in which they occur first,
each with the value of the last map that has it. -/
structure IsMerge (maps : List (Fields Value)) (merged : Fields Value) : Prop where
  keys : merged.keys = (maps.flatMap Fields.keys).eraseDups
  value : ∀ k, merged.find? k = maps.reverse.findSome? (·.find? k)

theorem mergeNodes_isMerge {nodes : List (Fields Value)} (h : ∀ fs ∈ nodes, fs.keys.Nodup) :
    IsMerge nodes (mergeNodes nodes) :=
  ⟨keys_mergeNodes nodes, find?_mergeNodes h⟩

theorem isMerge_iff {nodes : List (Fields Value)} (h : ∀ fs ∈ nodes, fs.keys.Nodup)
    {merged : Fields Value} : IsMerge nodes merged ↔ merged = mergeNodes nodes := by
  constructor
  · intro hmerged
    have hkeys := hmerged.keys.trans (keys_mergeNodes nodes).symm
    apply Fields.eq_of_find? (hkeys ▸ nodup_keys_mergeNodes nodes) hkeys
    intro k
    rw [hmerged.value, find?_mergeNodes h]
  · rintro rfl
    exact mergeNodes_isMerge h

theorem nodeOfValues_of_maps {nodes : List Value} (hne : nodes ≠ [])
    (h : ∀ v ∈ nodes, v.entries?.isSome = true) :
    nodeOfValues nodes = some (.map (mergeNodes (nodes.filterMap Value.entries?))) := by
  have hempty : ¬ nodes.isEmpty = true := fun he => hne (List.isEmpty_iff.1 he)
  rw [nodeOfValues, if_neg hempty, if_pos (List.all_eq_true.2 h)]

theorem nodeOfValues_map {fs : Fields Value} (h : fs.keys.Nodup) :
    nodeOfValues [.map fs] = some (.map fs) :=
  congrArg (some ∘ Value.map) (mergeNodes_singleton h)

section

variable {rounds : List (List Value)} (h : ∀ nodes ∈ rounds, ∀ v ∈ nodes, v.entries?.isSome = true)

include h

theorem mergeNodes_nodeOfValues :
    mergeNodes ((rounds.filterMap nodeOfValues).filterMap Value.entries?) =
      mergeNodes (rounds.flatten.filterMap Value.entries?) := by
  induction rounds with
  | nil => rfl
  | cons nodes rounds ih =>
    have hrounds := ih fun ns hns => h ns (.tail _ hns)
    by_cases hne : nodes = []
    · subst hne
      exact hrounds
    · have hnode := nodeOfValues_of_maps hne (h nodes (.head _))
      have hentries : Value.entries? (.map (mergeNodes (nodes.filterMap Value.entries?))) =
          some (mergeNodes (nodes.filterMap Value.entries?)) := rfl
      rw [List.filterMap_cons_some hnode, List.filterMap_cons_some hentries,
        mergeNodes_cons (nodup_keys_mergeNodes _), hrounds, List.flatten_cons,
        List.filterMap_append, mergeNodes_append]

/-- Nodes that are all maps give one map, whether they are taken in rounds or all at once. -/
theorem nodeOfValues_rounds :
    nodeOfValues (rounds.filterMap nodeOfValues) = nodeOfValues rounds.flatten := by
  have hmap : ∀ nodes ∈ rounds, nodes ≠ [] → ∃ fs, nodeOfValues nodes = some (.map fs) :=
    fun nodes hmem hne => ⟨_, nodeOfValues_of_maps hne (h nodes hmem)⟩
  by_cases hflat : rounds.flatten = []
  · have hrounds : rounds.filterMap nodeOfValues = [] := by
      rw [List.filterMap_eq_nil_iff]
      intro nodes hmem
      rw [List.flatten_eq_nil_iff.1 hflat nodes hmem]
      rfl
    rw [hflat, hrounds]
  · obtain ⟨nodes, hmem, hne⟩ := List.flatten_ne_nil_iff.1 hflat
    obtain ⟨fs, hfs⟩ := hmap nodes hmem hne
    have hrounds : rounds.filterMap nodeOfValues ≠ [] :=
      List.ne_nil_of_mem (List.mem_filterMap.2 ⟨nodes, hmem, hfs⟩)
    have hmaps : ∀ v ∈ rounds.filterMap nodeOfValues, v.entries?.isSome = true := by
      intro v hv
      obtain ⟨nodes, hmem, hnode⟩ := List.mem_filterMap.1 hv
      have hne : nodes ≠ [] := by
        rintro rfl
        cases hnode
      obtain ⟨fs, hfs⟩ := hmap nodes hmem hne
      rw [hfs] at hnode
      cases hnode
      rfl
    have hflatmaps : ∀ v ∈ rounds.flatten, v.entries?.isSome = true := by
      intro v hv
      obtain ⟨nodes, hmem, hv⟩ := List.mem_flatten.1 hv
      exact h nodes hmem v hv
    rw [nodeOfValues_of_maps hrounds hmaps, nodeOfValues_of_maps hflat hflatmaps]
    exact congrArg (some ∘ Value.map) (mergeNodes_nodeOfValues h)

end

theorem nodeOfValues_merged {rounds : List (List (Fields Value))} (hne : rounds ≠ []) :
    nodeOfValues (rounds.map fun maps => .map (mergeNodes maps)) =
      some (.map (mergeNodes rounds.flatten)) := by
  have hmaps : ∀ v ∈ rounds.map fun maps => Value.map (mergeNodes maps),
      v.entries?.isSome = true := by
    intro v hv
    obtain ⟨maps, -, rfl⟩ := List.mem_map.1 hv
    rfl
  have hentries : (rounds.map fun maps => Value.map (mergeNodes maps)).filterMap Value.entries? =
      rounds.map mergeNodes := by
    rw [List.filterMap_map]
    exact congrFun List.filterMap_eq_map rounds
  rw [nodeOfValues_of_maps (fun h => hne (List.map_eq_nil_iff.1 h)) hmaps, hentries,
    mergeNodes_map_mergeNodes]

/-- The merge of maps is the only map with the names of all of them in the order in which they occur
first, each with the value of the last map that has it. The empty map changes nothing, and maps may
be merged in parts: merging the conditions of each token, and then the tokens of a field, gives the
merge of all conditions at once. -/
theorem merges_keep_first_places_and_last_values :
    (∀ maps : List (Fields Value), (∀ fs ∈ maps, fs.keys.Nodup) →
      ∀ merged, IsMerge maps merged ↔ merged = mergeNodes maps) ∧
    (∀ fs : Fields Value, fs.keys.Nodup → mergeNodes [[], fs] = fs ∧ mergeNodes [fs, []] = fs) ∧
    (∀ before after : List (Fields Value),
      mergeNodes (before ++ after) = mergeNodes [mergeNodes before, mergeNodes after]) ∧
    ∀ rounds : List (List (Fields Value)),
      mergeNodes (rounds.map mergeNodes) = mergeNodes rounds.flatten ∧
      (rounds ≠ [] → nodeOfValues (rounds.map fun maps => .map (mergeNodes maps)) =
        some (.map (mergeNodes rounds.flatten))) := by
  refine ⟨?_, ?_, ?_, ?_⟩
  · intro maps hmaps merged
    exact isMerge_iff hmaps
  · intro fs hfs
    exact ⟨mergeNodes_singleton hfs, mergeNodes_singleton hfs⟩
  · intro before after
    have hrounds := mergeNodes_map_mergeNodes [before, after]
    rw [List.flatten_cons, List.flatten_singleton] at hrounds
    exact hrounds.symm
  · intro rounds
    exact ⟨mergeNodes_map_mergeNodes rounds, nodeOfValues_merged⟩

theorem merges_keep_first_places_and_last_values_repeated :
    IsMerge
      [[("$gt".toList, .int 5), ("$lt".toList, .int 9)], [],
        [("$ne".toList, .null), ("$gt".toList, .int 7)], [("$lt".toList, .int 8)]]
      [("$gt".toList, .int 7), ("$lt".toList, .int 8), ("$ne".toList, .null)] ∧
    nodeOfValues
        [.map (mergeNodes [[("$gt".toList, .int 5), ("$lt".toList, .int 9)], []]),
          .map (mergeNodes [[("$ne".toList, .null), ("$gt".toList, .int 7)],
            [("$lt".toList, .int 8)]])] =
      some (.map [("$gt".toList, .int 7), ("$lt".toList, .int 8), ("$ne".toList, .null)]) ∧
    mergeNodes [[("$gt".toList, .int 5), ("$lt".toList, .int 9)], []] =
      [("$gt".toList, .int 5), ("$lt".toList, .int 9)] := by
  obtain ⟨hmerge, hempty, -, hrounds⟩ := merges_keep_first_places_and_last_values
  refine ⟨?_, ?_, ?_⟩
  · rw [hmerge _ (by decide)]
    rfl
  · exact (hrounds [[_, _], [_, _]]).2 nofun
  · exact (hempty _ (by decide)).2

end Filter

end FindQuery
