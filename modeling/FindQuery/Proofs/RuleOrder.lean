import FindQuery.Proofs.Alphabets
import FindQuery.Proofs.Lockstep

namespace FindQuery

namespace Rule

/-- The rules whose order among themselves matters. -/
def ordered : List Rule := [.elemMatch, .logical, .or, .and, .comparison, .element]

/-- The rules that may stand anywhere before the last one. -/
def free : List Rule := [.json, .date, .number, .boolean]

/-- The rules of which no two read the same token. -/
def exclusive : List Rule :=
  [.json, .elemMatch, .logical, .comparison, .element, .date, .number, .boolean]

/-- The rules for tokens that start with one of their tags. -/
def tagged : List Rule := [.elemMatch, .logical, .comparison, .element]

/-- The tags that a rule looks for at the start of a token. -/
def tags : Rule → List Text
  | .elemMatch => [Tag.elemMatch]
  | .logical => Tag.logical
  | .comparison => Tag.comparison
  | .element => Tag.element
  | .json | .or | .and | .date | .number | .boolean | .text => []

/-- A table with the same rules, in which the ordered rules keep their order and the rule that reads
every token stays the last one. -/
structure Reordered (rules : List Rule) : Prop where
  perm : rules.Perm table
  order : rules.filter (· ∈ ordered) = ordered
  last : rules.getLast? = some .text

variable {t : Text} {rule : Rule}

theorem exists_of_isSome_map {α : Type} {read : Option α} {shape : α → Shape}
    (h : (read.map shape).isSome = true) : ∃ a, read = some a := by
  rw [Option.isSome_map] at h
  exact Option.isSome_iff_exists.1 h

theorem exists_tag (hrule : rule ∈ tagged) (h : rule.accepts t = true) :
    ∃ tag ∈ rule.tags, ∃ body, t = Tag.marker tag ++ body := by
  have hread : ∃ tagged, Tag.read? rule.tags t = some tagged := by
    cases rule with
    | elemMatch | logical | comparison | element => exact exists_of_isSome_map h
    | json | or | and | date | number | boolean | text => exact absurd hrule (by decide)
  obtain ⟨⟨tag, body⟩, hr⟩ := hread
  obtain ⟨htag, ht⟩ := Tag.eq_of_read? hr
  exact ⟨tag, htag, body, ht⟩

/-- A text that starts as a tag does. -/
def Opens (t : Text) : Prop := ∃ c r, t = '{' :: c :: r ∧ Text.isWord c = true

theorem opens_marker {tag : Text} (hne : tag ≠ []) (hword : ∀ c ∈ tag, Text.isWord c = true)
    (body : Text) : Opens (Tag.marker tag ++ body) := by
  cases tag with
  | nil => exact absurd rfl hne
  | cons c r => exact ⟨c, r ++ ['}'] ++ body, rfl, hword c (.head _)⟩

theorem opens_of_startsWithTag {p : Text} (h : Groups.startsWithTag p = true) (s : Text) :
    Opens (p ++ s) := by
  obtain ⟨tag, body, rfl, hne, hword⟩ := Groups.startsWithTag_iff.1 h
  rw [← Tag.marker_append, List.append_assoc]
  exact opens_marker hne hword (body ++ s)

theorem opens_of_and (h : Rule.and.accepts t = true) : Opens t := by
  obtain ⟨parts, hr⟩ := exists_of_isSome_map h
  obtain ⟨rfl, hlength, hall⟩ := Groups.read?_eq_some_iff.1 hr
  have hflat := Groups.flatten_split t
  cases hs : Groups.split t with
  | nil =>
    rw [hs] at hlength
    cases hlength
  | cons p ps =>
    rw [hs] at hflat hall
    rw [← hflat]
    exact opens_of_startsWithTag (hall p (.head _)) ps.flatten

theorem isWord_of_mem_tags (hrule : rule ∈ tagged) {tag : Text} (htag : tag ∈ rule.tags) :
    tag ≠ [] ∧ ∀ c ∈ tag, Text.isWord c = true := by
  have hwords : ∀ r ∈ tagged, ∀ tag ∈ r.tags, tag ≠ [] ∧ tag.all Text.isWord = true := by decide
  obtain ⟨hne, hall⟩ := hwords rule hrule tag htag
  exact ⟨hne, List.all_eq_true.1 hall⟩

theorem close_not_mem {tag : Text} (hword : ∀ c ∈ tag, Text.isWord c = true) : '}' ∉ tag :=
  fun h => absurd (hword '}' h) (by decide)

theorem opens_of_tagged (hrule : rule ∈ tagged) (h : rule.accepts t = true) : Opens t := by
  obtain ⟨tag, htag, body, rfl⟩ := exists_tag hrule h
  obtain ⟨hne, hword⟩ := isWord_of_mem_tags hrule htag
  exact opens_marker hne hword body

theorem mem_tags (hrule : rule ∈ tagged) {tag body : Text} (htag : '}' ∉ tag)
    (h : rule.accepts (Tag.marker tag ++ body) = true) : tag ∈ rule.tags := by
  obtain ⟨tag', htag', body', ht⟩ := exists_tag hrule h
  have hcut := Tag.cut_marker htag body
  rw [ht, Tag.cut_marker (close_not_mem (isWord_of_mem_tags hrule htag').2)] at hcut
  have htags : tag' = tag := (List.cons.inj (Prod.ext_iff.1 hcut).1).2
  exact htags ▸ htag'

theorem read?_eq_none (hrule : rule ∈ tagged) {tag : Text} (htag : '}' ∉ tag)
    (h : tag ∉ rule.tags) (body : Text) : rule.read? (Tag.marker tag ++ body) = none := by
  rw [← Option.not_isSome_iff_eq_none]
  exact fun haccepts => h (mem_tags hrule htag haccepts)

theorem eq_of_tagged {other : Rule} (hrule : rule ∈ tagged) (hother : other ∈ tagged)
    (h : rule.accepts t = true) (h' : other.accepts t = true) : rule = other := by
  obtain ⟨tag, htag, body, rfl⟩ := exists_tag hrule h
  have htag' := mem_tags hother (close_not_mem (isWord_of_mem_tags hrule htag).2) h'
  have hdistinct : ∀ r ∈ tagged, ∀ s ∈ tagged, ∀ tag ∈ r.tags, tag ∈ s.tags → r = s := by decide
  exact hdistinct rule hrule other hother tag htag htag'

def atoms : List Rule := [.date, .number, .boolean]

theorem mem_atoms : rule ∈ atoms ↔ rule = .date ∨ rule = .number ∨ rule = .boolean := by
  simp only [atoms, List.mem_cons, List.not_mem_nil, or_false]

theorem eq_of_boolean (h : Rule.boolean.accepts t = true) :
    t = "true".toList ∨ t = "false".toList := by
  obtain ⟨b, hb⟩ := exists_of_isSome_map h
  unfold readBoolean? at hb
  split at hb
  · next ht => exact .inl ht
  · split at hb
    · next ht => exact .inr ht
    · cases hb

theorem not_mem_of_atom (hrule : rule ∈ atoms) (h : rule.accepts t = true) :
    ∀ c ∈ ['{', '[', '|'], c ∉ t := by
  have hforeign : (['{', '[', '|'].all fun c =>
      Text.digitValue? c = none ∧ c ∉ "+-.,:eETZ\n".toList) = true := by
    decide
  intro c hc hmem
  obtain ⟨hdigit, hmark⟩ := of_decide_eq_true (List.all_eq_true.1 hforeign c hc)
  have hnone : Text.IsForeign c := ⟨hdigit, hmark⟩
  rcases mem_atoms.1 hrule with rfl | rfl | rfl
  · obtain ⟨x, hx⟩ := exists_of_isSome_map h
    rw [hnone.instant_eq_none hmem] at hx
    cases hx
  · obtain ⟨n, hn⟩ := exists_of_isSome_map h
    rw [hnone.numeral_eq_none hmem] at hn
    cases hn
  · have hwords : (['{', '[', '|'].all fun c =>
        c ∉ "true".toList ∧ c ∉ "false".toList) = true := by
      decide
    obtain ⟨htrue, hfalse⟩ := of_decide_eq_true (List.all_eq_true.1 hwords c hc)
    rcases eq_of_boolean h with rfl | rfl
    · exact htrue hmem
    · exact hfalse hmem

theorem not_number_of_date (h : Rule.date.accepts t = true) : ¬ Rule.number.accepts t = true := by
  obtain ⟨x, hx⟩ := exists_of_isSome_map h
  intro hnumber
  obtain ⟨n, hn⟩ := exists_of_isSome_map hnumber
  rw [Instant.numeral_eq_none hx] at hn
  cases hn

theorem eq_of_atom {other : Rule} (hrule : rule ∈ atoms) (hother : other ∈ atoms)
    (h : rule.accepts t = true) (h' : other.accepts t = true) : rule = other := by
  have hboolean (hb : Rule.boolean.accepts t = true) :
      ∀ r ∈ atoms, r.accepts t = true → r = .boolean := by
    rcases eq_of_boolean hb with rfl | rfl <;> decide
  rcases mem_atoms.1 hrule with rfl | rfl | rfl
  · rcases mem_atoms.1 hother with rfl | rfl | rfl
    · rfl
    · exact absurd h' (not_number_of_date h)
    · exact hboolean h' _ hrule h
  · rcases mem_atoms.1 hother with rfl | rfl | rfl
    · exact absurd h (not_number_of_date h')
    · rfl
    · exact hboolean h' _ hrule h
  · exact (hboolean h other hother h').symm

theorem not_atom_of_opens (ht : Opens t) (hrule : rule ∈ atoms) : ¬ rule.accepts t = true := by
  obtain ⟨c, r, rfl, -⟩ := ht
  intro h
  exact not_mem_of_atom hrule h '{' (.head _) (.head _)

theorem not_json_of_opens (ht : Opens t) : ¬ Rule.json.accepts t = true := by
  obtain ⟨c, r, rfl, hc⟩ := ht
  intro h
  obtain ⟨v, hv⟩ := exists_of_isSome_map h
  rw [Json.readContainer?_eq_none_of_word hc] at hv
  cases hv

theorem not_atom_of_json (h : Rule.json.accepts t = true) (hrule : rule ∈ atoms) :
    ¬ rule.accepts t = true := by
  intro hatom
  obtain ⟨v, hv⟩ := exists_of_isSome_map h
  have hmarks := not_mem_of_atom hrule hatom
  rcases Json.mem_of_readContainer? hv with hm | hm
  · exact hmarks '[' (.tail _ (.head _)) hm
  · exact hmarks '{' (.head _) hm

theorem accepts_or (t : Text) : Rule.or.accepts t = Alternatives.accepts t := by
  rw [accepts, read?, Option.isSome_map, Alternatives.read?]
  split
  · next h => exact h.symm
  · next h => exact (Bool.eq_false_of_not_eq_true h).symm

theorem read?_or (h : Rule.or.accepts t = true) :
    Rule.or.read? t = some (.alternatives (t.pieces '|')) := by
  rw [accepts_or] at h
  rw [read?, Alternatives.read?, if_pos h]
  rfl

theorem mem_of_or (h : Rule.or.accepts t = true) :
    '|' ∈ t ∧ ∀ c ∈ t, c ≠ '\n' → Alternatives.isSegmentChar c = true ∨ c = '|' := by
  rw [accepts_or] at h
  exact Alternatives.mem_of_accepts h

theorem not_or_of_container {s : Text} {v : Value} (hs : '|' ∉ s)
    (hv : Json.readContainer? t = some v) : ¬ Rule.or.accepts (s ++ t) = true := by
  intro h
  obtain ⟨hbar, hchars⟩ := mem_of_or h
  have hforeign {c : Char} (hc : c ∈ t) (hne : c ≠ '\n') :=
    hchars c (List.mem_append_right s hc) hne
  rcases Json.mem_of_bar_mem hv ((List.mem_append.1 hbar).resolve_left hs) with hm | hm
  · exact absurd (hforeign hm (by decide)) (by decide)
  · exact absurd (hforeign hm (by decide)) (by decide)

theorem not_json_of_or (h : Rule.or.accepts t = true) : ¬ Rule.json.accepts t = true := by
  intro hjson
  obtain ⟨v, hv⟩ := exists_of_isSome_map hjson
  exact not_or_of_container (s := []) List.not_mem_nil hv h

/-- No two of the exclusive rules read the same token. -/
theorem eq_of_exclusive {other : Rule} (hrule : rule ∈ exclusive) (hother : other ∈ exclusive)
    (h : rule.accepts t = true) (h' : other.accepts t = true) : rule = other := by
  have hkinds : ∀ r ∈ exclusive, r = .json ∨ r ∈ tagged ∨ r ∈ atoms := by decide
  rcases hkinds rule hrule with rfl | hr | hr
  · rcases hkinds other hother with rfl | ho | ho
    · rfl
    · exact absurd h (not_json_of_opens (opens_of_tagged ho h'))
    · exact absurd h' (not_atom_of_json h ho)
  · have ht := opens_of_tagged hr h
    rcases hkinds other hother with rfl | ho | ho
    · exact absurd h' (not_json_of_opens ht)
    · exact eq_of_tagged hr ho h h'
    · exact absurd h' (not_atom_of_opens ht ho)
  · rcases hkinds other hother with rfl | ho | ho
    · exact absurd h (not_atom_of_json h' hr)
    · exact absurd h (not_atom_of_opens (opens_of_tagged ho h') hr)
    · exact eq_of_atom hr ho h h'

theorem not_free_of_several {other : Rule} (hother : other ∈ [.or, .and])
    (h : other.accepts t = true) (hrule : rule ∈ free) : ¬ rule.accepts t = true := by
  have hkinds : ∀ r ∈ free, r = .json ∨ r ∈ atoms := by decide
  rcases List.mem_cons.1 hother with rfl | hother
  · rcases hkinds rule hrule with rfl | hr
    · exact not_json_of_or h
    · exact fun hatom => not_mem_of_atom hr hatom '|' (by decide) (mem_of_or h).1
  · rw [List.mem_singleton.1 hother] at h
    have ht := opens_of_and h
    rcases hkinds rule hrule with rfl | hr
    · exact not_json_of_opens ht
    · exact not_atom_of_opens ht hr

theorem mem_table (rule : Rule) : rule ∈ table := by
  cases rule <;> decide

/-- A free rule that reads a token is the only one beside the last to do so. -/
theorem eq_of_free {other : Rule} (hrule : rule ∈ free) (h : rule.accepts t = true)
    (hother : other ≠ .text) (h' : other.accepts t = true) : other = rule := by
  have hfree : ∀ r ∈ free, r ∈ exclusive := by decide
  have hkinds : ∀ r ∈ table, r = .text ∨ r ∈ [Rule.or, .and] ∨ r ∈ exclusive := by decide
  rcases hkinds other (mem_table other) with htext | hseveral | hexclusive
  · exact absurd htext hother
  · exact absurd h (not_free_of_several hseveral h' hrule)
  · exact eq_of_exclusive hexclusive (hfree rule hrule) h' h

theorem matching_of_free (hrule : rule ∈ free) (h : rule.accepts t = true) :
    matching t = [rule, .text] := by
  have hboth : ∀ r ∈ free, table.filter (fun s => s = r ∨ s = .text) = [r, .text] := by decide
  rw [← hboth rule hrule]
  apply List.filter_congr
  intro r _
  rw [Bool.eq_iff_iff, decide_eq_true_eq]
  constructor
  · intro hr
    by_cases htext : r = .text
    · exact .inr htext
    · exact .inl (eq_of_free hrule h htext hr)
  · rintro (rfl | rfl)
    · exact h
    · rfl

end Rule

namespace Shape

variable {rules : List Rule} {t : Text}

theorem ofToken?_append (others : List Rule) :
    ofToken? (rules ++ others) t = (ofToken? rules t).or (ofToken? others t) :=
  List.findSome?_append

theorem ofToken?_of_unique {rule : Rule} (hrule : rule ∈ rules) (h : rule.accepts t = true)
    (hunique : ∀ r ∈ rules, r.accepts t = true → r = rule) : ofToken? rules t = rule.read? t := by
  have hsome : (ofToken? rules t).isSome = true := List.findSome?_isSome_iff.2 ⟨rule, hrule, h⟩
  obtain ⟨shape, hshape⟩ := Option.isSome_iff_exists.1 hsome
  obtain ⟨r, hr, hread⟩ := List.exists_of_findSome?_eq_some hshape
  rw [hshape, ← hread, hunique r hr (Rule.accepts_of_read? hread)]

theorem ofToken?_filter {p : Rule → Bool}
    (h : ∀ r ∈ rules, p r = false → ¬ r.accepts t = true) :
    ofToken? (rules.filter p) t = ofToken? rules t := by
  induction rules with
  | nil => rfl
  | cons r rules ih =>
    have hrules := ih fun s hs => h s (.tail _ hs)
    rw [ofToken?, ofToken?] at hrules ⊢
    cases hp : p r with
    | true => rw [List.filter_cons_of_pos hp, List.findSome?_cons, List.findSome?_cons, hrules]
    | false =>
      have hnone := Option.not_isSome_iff_eq_none.1 (h r (.head _) hp)
      rw [List.filter_cons_of_neg (by rw [hp]; decide), List.findSome?_cons, hnone, hrules]

theorem ofToken?_of_matching {rule : Rule} {others : List Rule}
    (h : Rule.matching t = rule :: others) : ofToken? Rule.table t = rule.read? t := by
  have hnone (r : Rule) (hr : r ∈ Rule.table) (hnot : (r.accepts t) = false) :
      ¬ r.accepts t = true := by
    rw [hnot]
    decide
  rw [← ofToken?_filter hnone]
  have hread : rule.accepts t = true := by
    have hmem : rule ∈ Rule.matching t := h ▸ .head _
    exact (List.mem_filter.1 hmem).2
  obtain ⟨shape, hshape⟩ := Option.isSome_iff_exists.1 hread
  rw [← Rule.matching, h, ofToken?, List.findSome?_cons, hshape]

theorem ofToken?_marker {tag body : Text} (hne : tag ≠ [])
    (hword : ∀ c ∈ tag, Text.isWord c = true)
    (htags : ∀ r ∈ [Rule.elemMatch, .logical], tag ∉ r.tags)
    (hor : ¬ Rule.or.accepts (Tag.marker tag ++ body) = true) :
    ofToken? Rule.table (Tag.marker tag ++ body) =
      ofToken? [.and, .comparison, .element, .text] (Tag.marker tag ++ body) := by
  have hopens := Rule.opens_marker hne hword body
  have hfirst : Rule.table.filter (· ∈ [Rule.and, .comparison, .element, .text]) =
      [.and, .comparison, .element, .text] := by
    decide
  rw [← hfirst, ofToken?_filter]
  intro rule hrule hnot
  have hkinds : ∀ r ∈ Rule.table, decide (r ∈ [Rule.and, .comparison, .element, .text]) = false →
      r = .json ∨ r = .or ∨ r ∈ Rule.atoms ∨ r ∈ Rule.tagged ∧ r ∈ [Rule.elemMatch, .logical] := by
    decide
  rcases hkinds rule hrule hnot with rfl | rfl | hatom | ⟨htagged, hfirst⟩
  · exact Rule.not_json_of_opens hopens
  · exact hor
  · exact Rule.not_atom_of_opens hopens hatom
  · exact fun h => htags rule hfirst (Rule.mem_tags htagged (Rule.close_not_mem hword) h)

end Shape

namespace Filter

variable {o : FilterOptions} (hrules : o.rules = Rule.table) {rule : Rule} {token : Text}
  {shape : Shape} (hread : rule.read? token = some shape) {depth : Int} (hdepth : depth ≤ o.maxDepth)

include hrules hread hdepth

theorem tokenNode_of_matching {others : List Rule} (h : Rule.matching token = rule :: others)
    (hne : token ≠ []) :
    tokenNode o token depth = compileShape o (tokenNode o · (depth + 1)) token shape := by
  apply tokenNode_of_shape hdepth hne
  rw [hrules, Shape.ofToken?_of_matching h, hread]

theorem tokenNode_of_free (hrule : rule ∈ Rule.free) :
    tokenNode o token depth = compileShape o (tokenNode o · (depth + 1)) token shape := by
  have haccepts := Rule.accepts_of_read? hread
  have hne : token ≠ [] := by
    rintro rfl
    have hempty : ∀ r ∈ Rule.free, ¬ r.accepts [] = true := by decide
    exact hempty rule hrule haccepts
  exact tokenNode_of_matching hrules hread hdepth (Rule.matching_of_free hrule haccepts) hne

end Filter

namespace Rule.Reordered

variable {rules : List Rule} (h : Reordered rules) {t : Text}

include h

theorem exists_init : ∃ init, rules = init ++ [.text] ∧ .text ∉ init := by
  obtain ⟨init, rfl⟩ := List.getLast?_eq_some_iff.1 h.last
  have hnodup : (init ++ [Rule.text]).Nodup := h.perm.nodup_iff.2 (by decide)
  refine ⟨init, rfl, fun hmem => ?_⟩
  exact (List.nodup_append.1 hnodup).2.2 _ hmem _ (.head _) rfl

theorem ofToken?_of_free {rule : Rule} (hrule : rule ∈ free) (hread : rule.accepts t = true) :
    Shape.ofToken? rules t = rule.read? t := by
  obtain ⟨init, hinit, htext⟩ := h.exists_init
  have hmem : rule ∈ init := by
    have hrules := h.perm.mem_iff.2 (mem_table rule)
    rw [hinit] at hrules
    rcases List.mem_append.1 hrules with hrules | hrules
    · exact hrules
    · have hlast : .text ∉ free := by decide
      exact absurd (List.mem_singleton.1 hrules ▸ hrule) hlast
  have hfirst : Shape.ofToken? init t = rule.read? t := by
    apply Shape.ofToken?_of_unique hmem hread
    intro other hother haccepts
    exact eq_of_free hrule hread (fun he => htext (he ▸ hother)) haccepts
  obtain ⟨shape, hshape⟩ := Option.isSome_iff_exists.1 hread
  rw [hinit, Shape.ofToken?_append, hfirst, hshape]
  rfl

theorem ofToken?_of_not_free (hno : ∀ rule ∈ free, ¬ rule.accepts t = true) :
    Shape.ofToken? rules t = Shape.ofToken? (ordered ++ [.text]) t := by
  obtain ⟨init, hinit, htext⟩ := h.exists_init
  have horder := h.order
  have hlast : [Rule.text].filter (· ∈ ordered) = [] := by decide
  rw [hinit, List.filter_append, hlast, List.append_nil] at horder
  have hfirst : Shape.ofToken? (init.filter (· ∈ ordered)) t = Shape.ofToken? init t := by
    apply Shape.ofToken?_filter
    intro rule hrule hnot
    have hkinds : ∀ r ∈ table, r = .text ∨ r ∈ ordered ∨ r ∈ free := by decide
    rcases hkinds rule (mem_table rule) with rfl | hordered | hfree
    · exact absurd hrule htext
    · exact absurd hordered (of_decide_eq_false hnot)
    · exact hno rule hfree
  rw [hinit, Shape.ofToken?_append, Shape.ofToken?_append, ← hfirst, horder]

theorem ofToken?_eq (t : Text) : Shape.ofToken? rules t = Shape.ofToken? table t := by
  have htable : Reordered table := ⟨.refl _, by decide, by decide⟩
  by_cases hfree : ∃ rule ∈ free, rule.accepts t = true
  · obtain ⟨rule, hrule, hread⟩ := hfree
    rw [h.ofToken?_of_free hrule hread, htable.ofToken?_of_free hrule hread]
  · have hno : ∀ rule ∈ free, ¬ rule.accepts t = true := fun rule hrule hread =>
      hfree ⟨rule, hrule, hread⟩
    rw [h.ofToken?_of_not_free hno, htable.ofToken?_of_not_free hno]

end Rule.Reordered

/-- Only the rules for tags and for several tokens in one are sensitive to order: a table in which
they keep theirs compiles every token as the standard table does. No token is read by two of the
exclusive rules, and none that is read as several tokens is read by a free rule. -/
theorem order_matters_among_ordered_rules :
    (∀ rules, Rule.Reordered rules → ∀ (o : FilterOptions) (token : Text) (depth : Int),
      Filter.tokenNode { o with rules := rules } token depth =
        Filter.tokenNode { o with rules := Rule.table } token depth) ∧
    ∀ token : Text,
      (∀ r ∈ Rule.exclusive, ∀ s ∈ Rule.exclusive, r.accepts token = true →
        s.accepts token = true → r = s) ∧
      ∀ r ∈ Rule.free, ∀ s ∈ [Rule.or, Rule.and], s.accepts token = true →
        ¬ r.accepts token = true := by
  refine ⟨?_, fun token => ⟨?_, ?_⟩⟩
  · intro rules h o token depth
    refine Filter.nodeAt_congr ?_ ?_ h.ofToken?_eq _ token
    · rfl
    · rfl
  · intro r hr s hs
    exact Rule.eq_of_exclusive hr hs
  · intro r hr s hs h
    exact Rule.not_free_of_several hs h hr

theorem order_matters_among_ordered_rules_atoms_first :
    Filter.tokenNode
        { rules := [.boolean, .elemMatch, .date, .logical, .or, .and, .number, .comparison,
          .element, .json, .text] }
        "{gte}2024-01-15|{ne}true".toList 0 =
      Filter.tokenNode {} "{gte}2024-01-15|{ne}true".toList 0 ∧
    ¬ Rule.json.accepts "{gt}1{lt}[2]".toList = true := by
  obtain ⟨horder, hshapes⟩ := order_matters_among_ordered_rules
  constructor
  · exact horder _ ⟨by decide, by decide, by decide⟩ {} "{gte}2024-01-15|{ne}true".toList 0
  · exact (hshapes "{gt}1{lt}[2]".toList).2 .json (by decide) .and (by decide) (by decide)

end FindQuery
