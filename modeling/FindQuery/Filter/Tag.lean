import FindQuery.Text.Basic

namespace FindQuery.Tag

def comparison : List Text :=
  ["eq".toList, "gt".toList, "gte".toList, "in".toList, "lt".toList, "lte".toList, "ne".toList,
    "nin".toList]

def logical : List Text := ["and".toList, "or".toList, "not".toList, "nor".toList]

def existence : Text := "exists".toList

def fieldType : Text := "type".toList

/-- The tags that ask about a field and not about its value. -/
def element : List Text := [existence, fieldType]

/-- The tag of a query on the elements of an array. -/
def elemMatch : Text := "elemMatch".toList

def regex : Text := "regex".toList

def fieldTypes : List Text :=
  ["double".toList, "string".toList, "object".toList, "array".toList, "binData".toList,
    "objectId".toList, "bool".toList, "date".toList, "null".toList, "regex".toList,
    "javascript".toList, "int".toList, "timestamp".toList, "long".toList, "decimal".toList,
    "minKey".toList, "maxKey".toList]

def marker (tag : Text) : Text := '{' :: tag ++ ['}']

/-- The name of a tag's operator in a compiled filter. -/
def operator (tag : Text) : Text := '$' :: tag

/-- The tag of a list that a token starts with, and what follows it. -/
def read? (tags : List Text) (t : Text) : Option (Text × Text) :=
  tags.findSome? fun tag => (Text.after? (marker tag) t).map fun body => (tag, body)

/-- What stands between the first character and the first closing brace, and what follows it. -/
def split? (t : Text) : Option (Text × Text) :=
  let parts := t.cut '}'
  parts.2.map fun body => (parts.1.drop 1, body)

theorem eq_of_read? {tags : List Text} {t tag body : Text} (h : read? tags t = some (tag, body)) :
    tag ∈ tags ∧ t = marker tag ++ body := by
  obtain ⟨x, hx, hbody⟩ := List.exists_of_findSome?_eq_some h
  obtain ⟨r, hr, he⟩ := Option.map_eq_some_iff.1 hbody
  cases he
  exact ⟨hx, Text.after?_eq_some_iff.1 hr⟩

theorem mem_marker {c : Char} {tag : Text} (h : c ∈ marker tag) : c = '{' ∨ c ∈ tag ∨ c = '}' := by
  rcases List.mem_cons.1 h with h | h
  · exact .inl h
  · exact .inr ((List.mem_append.1 h).imp_right List.mem_singleton.1)

theorem marker_append (tag body : Text) : marker tag ++ body = '{' :: (tag ++ '}' :: body) :=
  List.append_assoc ('{' :: tag) ['}'] body

theorem marker_append_ne_nil (tag body : Text) : marker tag ++ body ≠ [] := nofun

theorem cut_marker {tag : Text} (h : '}' ∉ tag) (body : Text) :
    (marker tag ++ body).cut '}' = ('{' :: tag, some body) := by
  have hopen : '}' ∉ '{' :: tag := List.not_mem_cons_of_ne_of_not_mem (by decide) h
  rw [marker, List.append_assoc]
  exact Text.cut_append_cons hopen body

/-- A tag that a token starts with is what stands in its first braces. -/
theorem split?_of_read? {tags : List Text} {t tag body : Text} (htags : ∀ x ∈ tags, '}' ∉ x)
    (h : read? tags t = some (tag, body)) : split? t = some (tag, body) := by
  obtain ⟨hmem, rfl⟩ := eq_of_read? h
  rw [split?, cut_marker (htags tag hmem)]
  rfl

theorem read?_marker {tags : List Text} {tag : Text} (htags : ∀ x ∈ tags, '}' ∉ x)
    (htag : tag ∈ tags) (body : Text) : read? tags (marker tag ++ body) = some (tag, body) := by
  have hafter : Text.after? (marker tag) (marker tag ++ body) = some body :=
    Text.after?_eq_some_iff.2 rfl
  have hsome : (read? tags (marker tag ++ body)).isSome = true :=
    List.findSome?_isSome_iff.2 ⟨tag, htag, by rw [hafter]; rfl⟩
  obtain ⟨⟨x, r⟩, hread⟩ := Option.isSome_iff_exists.1 hsome
  have hsplit := split?_of_read? htags hread
  rw [split?, cut_marker (htags tag htag)] at hsplit
  rw [hread, ← hsplit]
  rfl

end FindQuery.Tag
