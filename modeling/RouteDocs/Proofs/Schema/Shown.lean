import RouteDocs.Proofs.Schema.Order

/-!
What a rendered schema shows of a tree. Named children are shown wherever they are; the items
of a node are shown only where the node is an array.
-/

namespace RouteDocs

open Schema (entry)

namespace Value

def entryOf? (key : String) (entries : List (Value × Value)) : Option Value :=
  (entries.find? fun entry => entry.1.same (.text key)).map Prod.snd

/-- What stands under a key of a mapping. -/
def lookup? (key : String) : Value → Option Value
  | .map entries => entryOf? key entries
  | _ => none

theorem entryOf?_cons (key other : String) (value : Value) (rest : List (Value × Value)) :
    entryOf? key (entry other value :: rest) =
      if other = key then some value else entryOf? key rest := by
  rw [entryOf?, List.find?_cons, entry, same_text]
  by_cases same : other = key
  · simp [same]
  · rw [beq_false_of_ne same, if_neg same, entryOf?]

@[simp] theorem entryOf?_nil (key : String) : entryOf? key [] = none := rfl

theorem entryOf?_append (key : String) (front back : List (Value × Value)) :
    entryOf? key (front ++ back) = (entryOf? key front).or (entryOf? key back) := by
  rw [entryOf?, List.find?_append, Option.map_or]
  rfl

theorem entryOf?_of_keywords {key : String} {keywords : List String}
    {entries : List (Value × Value)}
    (known : ∀ entry ∈ entries, ∃ keyword ∈ keywords, entry.1 = .text keyword)
    (other : key ∉ keywords) : entryOf? key entries = none := by
  rw [entryOf?, Option.map_eq_none_iff, List.find?_eq_none]
  intro entry member same
  obtain ⟨keyword, among, text⟩ := known entry member
  rw [text, same_text] at same
  exact other (eq_of_beq same ▸ among)

end Value

namespace Schema

open Value (entryOf? lookup? entryOf?_nil entryOf?_cons entryOf?_append entryOf?_of_keywords)

/-! The entries that do not depend on the nodes below. -/

def Details.keywords : List String :=
  ["type", "format", "x-extensions", "description", "nullable", "enum", "pattern",
   "minimum", "exclusiveMinimum", "maximum", "exclusiveMaximum", "minItems", "maxItems",
   "minLength", "maxLength"]

theorem keyword_of_textEntry {keyword : String} {text : Option String}
    {shown : Value × Value} (member : shown ∈ textEntry keyword text) :
    shown.1 = .text keyword := by
  unfold textEntry at member
  split at member
  · cases member
  · split at member
    · cases member
    · rw [List.mem_singleton.mp member]
      rfl

theorem Details.keyword_of_boundEntries {keyword exclusiveKeyword : String}
    {bound : Option Number} {exclusive : Bool} {shown : Value × Value}
    (member : shown ∈ Details.boundEntries keyword exclusiveKeyword bound exclusive) :
    shown.1 = .text keyword ∨ shown.1 = .text exclusiveKeyword := by
  unfold Details.boundEntries at member
  split at member
  · cases member
  · rcases List.mem_cons.mp member with rfl | excluded
    · exact .inl rfl
    · split at excluded
      · rw [List.mem_singleton.mp excluded]
        exact .inr rfl
      · cases excluded

theorem Details.keyword_of_boundsEntries {type : Option FieldType} {bounds : Bounds}
    {shown : Value × Value} (member : shown ∈ Details.boundsEntries type bounds) :
    ∃ keyword ∈ keywords, shown.1 = .text keyword := by
  unfold Details.boundsEntries at member
  cases keys : Details.boundKeys? type with
  | none =>
      rw [keys] at member
      cases member
  | some both =>
      obtain ⟨low, high⟩ := both
      have among : low ∈ keywords ∧ high ∈ keywords := by
        unfold Details.boundKeys? at keys
        split at keys <;> cases keys <;> decide
      rw [keys] at member
      rcases List.mem_append.mp member with least | most
      · rcases keyword_of_boundEntries least with text | text
        · exact ⟨low, among.1, text⟩
        · exact ⟨_, by decide, text⟩
      · rcases keyword_of_boundEntries most with text | text
        · exact ⟨high, among.2, text⟩
        · exact ⟨_, by decide, text⟩

theorem Details.keyword_of_typeEntries {type : Option FieldType} {details : Details}
    {shown : Value × Value} (member : shown ∈ details.typeEntries type) :
    ∃ keyword ∈ ["type", "format", "x-extensions"], shown.1 = .text keyword := by
  unfold Details.typeEntries at member
  split at member
  · exact ⟨_, by decide, keyword_of_textEntry member⟩
  · rcases List.mem_append.mp member with binary | extensions
    · simp only [List.mem_cons, List.not_mem_nil, or_false] at binary
      rcases binary with rfl | rfl
      · exact ⟨"type", by decide, rfl⟩
      · exact ⟨"format", by decide, rfl⟩
    · split at extensions
      · rw [List.mem_singleton.mp extensions]
        exact ⟨"x-extensions", by decide, rfl⟩
      · cases extensions
  · rcases List.mem_cons.mp member with rfl | format
    · exact ⟨"type", by decide, rfl⟩
    · exact ⟨_, by decide, keyword_of_textEntry format⟩

/-- Keywords that say nothing of bounds. -/
def Details.plainKeywords : List String :=
  ["type", "format", "x-extensions", "description", "nullable", "enum", "pattern"]

theorem Details.entries_eq_append_bounds (type : Option FieldType) (details : Details) :
    ∃ plain, details.entries type = plain ++ boundsEntries type details.bounds ∧
      ∀ shown ∈ plain, ∃ keyword ∈ plainKeywords, shown.1 = .text keyword := by
  refine ⟨_, rfl, fun shown member => ?_⟩
  simp only [List.mem_append] at member
  rcases member with (((typed | described) | nullable) | literals) | pattern
  · obtain ⟨keyword, among, text⟩ := keyword_of_typeEntries typed
    exact ⟨keyword, List.mem_append_left _ among, text⟩
  · exact ⟨_, by decide, keyword_of_textEntry described⟩
  · split at nullable
    · rw [List.mem_singleton.mp nullable]
      exact ⟨"nullable", by decide, rfl⟩
    · cases nullable
  · split at literals
    · rw [List.mem_singleton.mp literals]
      exact ⟨"enum", by decide, rfl⟩
    · cases literals
  · exact ⟨_, by decide, keyword_of_textEntry pattern⟩

theorem Details.keyword_of_entries {type : Option FieldType} {details : Details}
    {shown : Value × Value} (member : shown ∈ details.entries type) :
    ∃ keyword ∈ keywords, shown.1 = .text keyword := by
  obtain ⟨plain, parted, told⟩ := entries_eq_append_bounds type details
  rw [parted] at member
  rcases List.mem_append.mp member with said | bounds
  · obtain ⟨keyword, among, text⟩ := told shown said
    exact ⟨keyword, List.mem_append_left _ among, text⟩
  · exact keyword_of_boundsEntries bounds

theorem Details.keyword_of_sampleEntries {details : Details} {shown : Value × Value}
    (member : shown ∈ details.sampleEntries) : ∃ keyword ∈ ["example"], shown.1 = .text keyword := by
  unfold Details.sampleEntries at member
  split at member
  · cases member
  · rw [List.mem_singleton.mp member]
    exact ⟨"example", by decide, rfl⟩

/-- The name under which a type is shown. Files are shown as texts. -/
def shownType : FieldType → String
  | .file => FieldType.string.name
  | type => type.name

theorem Details.entryOf?_type (type : FieldType) (details : Details) :
    entryOf? "type" (details.entries (some type)) = some (.text (shownType type)) := by
  unfold Details.entries Details.typeEntries
  cases type <;> simp only [List.cons_append, List.append_assoc] <;>
    rw [entryOf?_cons, if_pos rfl] <;> rfl

namespace Node

/-! The entries for the nodes below. -/

section

variable (type : Option FieldType) (properties : Entries)

theorem objectEntries_nil : objectEntries type [] properties = [] := by
  cases type <;> simp [objectEntries, requiredNames]

theorem objectEntries_cons (child : Node) (rest : List Node) :
    objectEntries type (child :: rest) properties =
      (if type.isNone then [entry "type" (.text FieldType.object.name)] else []) ++
        [entry "properties" (.map (Value.ofEntries properties))] ++
        (if (requiredNames (child :: rest)).isEmpty then []
          else [entry "required" (.list (requiredNames (child :: rest)))]) := by
  rw [objectEntries, if_pos (.inr rfl)]
  rfl

variable (children : List Node)

theorem entryOf?_properties :
    entryOf? "properties" (objectEntries type children properties) =
      if children.isEmpty then none else some (.map (Value.ofEntries properties)) := by
  cases children with
  | nil => rw [objectEntries_nil]; rfl
  | cons child rest =>
      rw [objectEntries_cons, entryOf?_append, entryOf?_append]
      cases type <;> simp [entryOf?_cons]

theorem entryOf?_required :
    entryOf? "required" (objectEntries type children properties) =
      if (requiredNames children).isEmpty then none
      else some (.list (requiredNames children)) := by
  cases children with
  | nil => rw [objectEntries_nil]; rfl
  | cons child rest =>
      rw [objectEntries_cons, entryOf?_append, entryOf?_append]
      cases (requiredNames (child :: rest)).isEmpty <;> cases type <;> simp [entryOf?_cons]

theorem entryOf?_items : entryOf? "items" (objectEntries type children properties) = none := by
  cases children with
  | nil => rw [objectEntries_nil]; rfl
  | cons child rest =>
      rw [objectEntries_cons, entryOf?_append, entryOf?_append]
      cases (requiredNames (child :: rest)).isEmpty <;> cases type <;> simp [entryOf?_cons]

end

variable {node : Node}

theorem toOpenApi_eq (node : Node) :
    node.toOpenApi =
      .map
        (node.details.entries node.type ++
          objectEntries node.type node.children (propertiesOf node.children) ++
          (if node.type = some .array then [entry "items" (itemsValue node.items)] else []) ++
          (if node.children.isEmpty ∧ node.type ≠ some .array then node.details.sampleEntries
            else [])) := by
  cases node
  rw [toOpenApi]

/-- Besides what a node says of itself, only the nodes below it and its example are shown. -/
theorem lookup?_toOpenApi {key : String} (other : key ∉ "example" :: Details.keywords) :
    node.toOpenApi.lookup? key =
      (entryOf? key (objectEntries node.type node.children (propertiesOf node.children))).or
        (if node.type = some .array ∧ key = "items" then some (itemsValue node.items)
          else none) := by
  rw [List.mem_cons, not_or] at other
  have said : entryOf? key (node.details.entries node.type) = none :=
    entryOf?_of_keywords (fun _ => Details.keyword_of_entries) other.2
  have sample : entryOf? key node.details.sampleEntries = none :=
    entryOf?_of_keywords (fun _ => Details.keyword_of_sampleEntries) (by simpa using other.1)
  rw [toOpenApi_eq, lookup?, entryOf?_append, entryOf?_append, entryOf?_append, said,
    Option.none_or]
  by_cases array : node.type = some .array
  · by_cases items : key = "items"
    · simp [array, entryOf?_cons, items]
    · simp [array, entryOf?_cons, items, Ne.symm items]
  · simp only [array, false_and, if_false, entryOf?_nil, Option.or_none]
    split
    · rw [sample, Option.or_none]
    · rw [entryOf?_nil, Option.or_none]

theorem Titled.lookup?_properties (titled : Titled node.children) :
    node.toOpenApi.lookup? "properties" =
      if node.children.isEmpty then none else some (.map (propertiesOf node.children)) := by
  rw [lookup?_toOpenApi (by decide), entryOf?_properties, titled.ofEntries_propertiesOf]
  simp

theorem lookup?_properties (tidy : Tidy node) :
    node.toOpenApi.lookup? "properties" =
      if node.children.isEmpty then none else some (.map (propertiesOf node.children)) :=
  tidy.siblings.titled.lookup?_properties

theorem lookup?_required :
    node.toOpenApi.lookup? "required" =
      if (requiredNames node.children).isEmpty then none
      else some (.list (requiredNames node.children)) := by
  rw [lookup?_toOpenApi (by decide), entryOf?_required]
  simp

theorem lookup?_items :
    node.toOpenApi.lookup? "items" =
      if node.type = some .array then some (itemsValue node.items) else none := by
  rw [lookup?_toOpenApi (by decide), entryOf?_items, Option.none_or]
  simp

theorem lookup?_type {type : FieldType} (typed : node.type = some type) :
    node.toOpenApi.lookup? "type" = some (.text (shownType type)) := by
  rw [toOpenApi_eq, lookup?, entryOf?_append, entryOf?_append, entryOf?_append, typed,
    Details.entryOf?_type]
  rfl

/-! Following a path through a rendered schema. -/

/-- The schema that a segment leads to: a property, or the items for the wildcard. -/
def shownAt? (segment : String) (schema : Value) : Option Value :=
  if segment = wildcard then schema.lookup? "items"
  else (schema.lookup? "properties").bind (lookup? segment)

def shown? : List String → Value → Option Value
  | [], schema => some schema
  | segment :: rest, schema => (shownAt? segment schema).bind (shown? rest)

theorem entryOf?_propertiesOf {children : List Node}
    (named : ∀ child ∈ children, ∃ key, child.name = some key) (segment : String) :
    entryOf? segment (propertiesOf children) =
      (children.find? fun child => child.name == some segment).map toOpenApi := by
  induction children with
  | nil => rfl
  | cons child rest induction =>
      obtain ⟨key, name⟩ := named child (by simp)
      rw [propertiesOf, name, List.find?_cons]
      change entryOf? segment (entry key child.toOpenApi :: propertiesOf rest) = _
      rw [entryOf?_cons, induction fun other member => named other (List.mem_cons_of_mem _ member),
        name]
      by_cases same : key = segment
      · simp [same]
      · rw [if_neg same, beq_false_of_ne fun equal => same (Option.some.inj equal)]

theorem shownAt?_of_named (tidy : Tidy node) {segment : String} (named : segment ≠ wildcard) :
    shownAt? segment node.toOpenApi = (node.at? segment).map toOpenApi := by
  rw [shownAt?, if_neg named, lookup?_properties tidy, at?, if_neg named, child?]
  split
  · rename_i childless
    rw [List.isEmpty_iff.mp childless]
    rfl
  · exact entryOf?_propertiesOf tidy.siblings.titled.named segment

theorem shownAt?_wildcard (node : Node) :
    shownAt? wildcard node.toOpenApi =
      if node.type = some .array then some (itemsValue node.items) else none := by
  rw [shownAt?, if_pos rfl, lookup?_items]

/-- Each wildcard of the path comes to a node that is an array. -/
def Shows : List String → Node → Prop
  | [], _ => True
  | segment :: rest, node =>
      (segment = wildcard → node.type = some .array) ∧
        ∀ below, node.at? segment = some below → Shows rest below

theorem shows_iff {path : List String} {node : Node} :
    node.Shows path ↔ ∀ front holder, front ++ [wildcard] <+: path →
      node.reach? front = some holder → holder.type = some .array := by
  induction path generalizing node with
  | nil => simp [Shows]
  | cons segment rest induction =>
      rw [Shows]
      constructor
      · rintro ⟨here, later⟩ front holder start reached
        cases front with
        | nil =>
            cases reached
            exact here (List.cons_prefix_cons.mp start).1.symm
        | cons first front =>
            obtain ⟨rfl, begun⟩ := List.cons_prefix_cons.mp start
            obtain ⟨below, found, reached⟩ := Option.bind_eq_some_iff.mp reached
            exact induction.mp (later below found) front holder begun reached
      · intro arrays
        refine ⟨?_, fun below found => induction.mpr fun front holder start reached => ?_⟩
        · rintro rfl
          exact arrays [] node (by simp) rfl
        · apply arrays (segment :: front) holder (List.cons_prefix_cons.mpr ⟨rfl, start⟩)
          rw [reach?_cons, found]
          exact reached

theorem shown?_cons (segment : String) (rest : List String) (schema : Value) :
    shown? (segment :: rest) schema = (shownAt? segment schema).bind (shown? rest) := rfl

/-- A node of the tree is shown if its path is, and then it is found at its path. -/
theorem shown?_toOpenApi (tidy : Tidy node) {path : List String} {below : Node}
    (reached : node.reach? path = some below) :
    (node.Shows path → shown? path node.toOpenApi = some below.toOpenApi) ∧
      (¬ node.Shows path → shown? path node.toOpenApi = none) := by
  induction path generalizing node with
  | nil =>
      cases reached
      exact ⟨fun _ => rfl, fun hidden => (hidden trivial).elim⟩
  | cons segment rest induction =>
      obtain ⟨next, found, reached⟩ := Option.bind_eq_some_iff.mp reached
      obtain ⟨shown, hidden⟩ := induction (tidy.held (holds_of_at? found)) reached
      have later : (∀ other, node.at? segment = some other → Shows rest other) ↔
          Shows rest next := by
        rw [found]
        simp
      rw [Shows, later, shown?_cons]
      by_cases wild : segment = wildcard
      · subst wild
        have hung : node.items = some next := by rwa [at?, if_pos rfl] at found
        rw [shownAt?_wildcard, hung]
        by_cases array : node.type = some .array
        · rw [if_pos array]
          exact ⟨fun shows => shown shows.2, fun other => hidden fun shows =>
            other ⟨fun _ => array, shows⟩⟩
        · rw [if_neg array]
          exact ⟨fun shows => (array (shows.1 rfl)).elim, fun _ => rfl⟩
      · rw [shownAt?_of_named tidy wild, found]
        exact ⟨fun shows => shown shows.2, fun other => hidden fun shows =>
          other ⟨fun same => (wild same).elim, shows⟩⟩

end Node
end Schema
end RouteDocs
