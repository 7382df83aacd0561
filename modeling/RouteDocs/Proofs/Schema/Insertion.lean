import RouteDocs.Proofs.Schema.Tidy

/-!
What putting a node at the end of a path does to a tree. The nodes along the path come
to be, if they are missing, and get a type from the segment that follows; the node at the
end keeps what hung there before; all other nodes stay as they are.
-/

namespace RouteDocs.Schema.Node

/-- What a node says of itself, apart from its name. -/
structure Label where
  type : Option FieldType := none
  details : Details := {}

def label (node : Node) : Label :=
  { type := node.type, details := node.details }

/-- The label at the end of a path. -/
def label? (path : List String) (root : Node) : Option Label :=
  (root.reach? path).map label

/-- The type of a node that the segment hangs below. -/
def holderType (next : String) : FieldType :=
  if next = wildcard then .array else .object

/-- The type that a longer path asks for at a place it leads through. -/
def typeThrough? : (place path : List String) → Option FieldType
  | [], next :: _ => some (holderType next)
  | segment :: place, next :: path => if segment = next then typeThrough? place path else none
  | _, [] => none

/-- The label of a node that comes to hold others. -/
def Label.holding (type : FieldType) (known : Label) : Label :=
  { known with type := some ((FieldType.named? known.type).getD type) }

/-- The label of a node that takes the place of another one. -/
def Label.over (label : Label) (known : Option Label) : Label :=
  match known with
  | none => label
  | some known => { label with type := (FieldType.named? label.type).or known.type }

/-! The nodes directly below a node that was changed at a segment. -/

section

variable {update : Node → Node}

theorem find?_changeNamed {segment : String}
    (keeps : ∀ node, node.name = some segment → (update node).name = some segment)
    (other : String) (children : List Node) :
    (changeNamed segment update children).find? (fun child => child.name == some other) =
      if other = segment then
        some (update ((children.find? fun child => child.name == some segment).getD
          { name := some segment }))
      else children.find? fun child => child.name == some other := by
  induction children with
  | nil =>
      by_cases same : other = segment
      · simp [changeNamed, keeps, same]
      · simp [changeNamed, keeps, same, Ne.symm same]
  | cons child rest induction =>
      rw [changeNamed]
      by_cases found : child.name = some segment
      · have kept := keeps child found
        by_cases same : other = segment
        · simp [kept, found, same]
        · simp [kept, found, same, Ne.symm same]
      · rw [if_neg found, List.find?_cons, induction]
        by_cases same : other = segment
        · have different : (child.name == some segment) = false := by simpa using found
          simp [same, different]
        · simp only [if_neg same, List.find?_cons]

theorem map_name_changeNamed {segment : String}
    (keeps : ∀ node, node.name = some segment → (update node).name = some segment)
    (children : List Node) :
    (changeNamed segment update children).map name =
      if some segment ∈ children.map name then children.map name
      else children.map name ++ [some segment] := by
  induction children with
  | nil => simp [changeNamed, keeps]
  | cons child rest induction =>
      rw [changeNamed]
      by_cases found : child.name = some segment
      · simp [found, keeps child found]
      · by_cases later : some segment ∈ rest.map name
        · have present : some segment ∈ (child :: rest).map name :=
            List.mem_cons_of_mem _ later
          rw [if_neg found, List.map_cons, induction, if_pos later, if_pos present]
          rfl
        · have missing : some segment ∉ (child :: rest).map name := by
            rw [List.map_cons, List.mem_cons]
            rintro (same | member)
            · exact found same.symm
            · exact later member
          rw [if_neg found, List.map_cons, induction, if_neg later, if_neg missing]
          rfl

theorem mem_changeNamed {segment : String} {children : List Node} {child : Node}
    (member : child ∈ changeNamed segment update children) :
    child ∈ children ∨
      (∃ known ∈ children, known.name = some segment ∧ child = update known) ∨
      child = update { name := some segment } := by
  induction children with
  | nil => exact .inr (.inr (List.mem_singleton.mp member))
  | cons head rest induction =>
      rw [changeNamed] at member
      split at member
      · rename_i found
        rcases List.mem_cons.mp member with rfl | member
        · exact .inr (.inl ⟨head, by simp, found, rfl⟩)
        · exact .inl (List.mem_cons_of_mem _ member)
      · rcases List.mem_cons.mp member with rfl | member
        · exact .inl (by simp)
        · rcases induction member with old | ⟨known, old, updated⟩ | made
          · exact .inl (List.mem_cons_of_mem _ old)
          · exact .inr (.inl ⟨known, List.mem_cons_of_mem _ old, updated⟩)
          · exact .inr (.inr made)

theorem at?_change {segment : String}
    (keeps : ∀ node, node.name = segmentName segment → (update node).name = segmentName segment)
    (other : String) (node : Node) :
    (node.change segment update).at? other =
      if other = segment then
        some (update ((node.at? segment).getD { name := segmentName segment }))
      else node.at? other := by
  rw [Node.change]
  by_cases wild : segment = wildcard
  · rw [if_pos wild, wild]
    by_cases same : other = wildcard
    · simp [at?, same, segmentName]
    · simp [at?, same, child?]
  · rw [segmentName_of_ne wild] at keeps ⊢
    rw [if_neg wild]
    by_cases items : other = wildcard
    · have different : other ≠ segment := fun same => wild (same ▸ items)
      rw [at?, if_pos items, if_neg different, at?, if_pos items]
    · rw [at?, if_neg items, at?, if_neg wild, at?, if_neg items]
      exact find?_changeNamed keeps other node.children

theorem Tidy.change {node : Node} (tidy : Tidy node) (segment : String)
    (keeps : ∀ node, node.name = segmentName segment → (update node).name = segmentName segment)
    (tidies : ∀ node, Tidy node → Tidy (update node)) : Tidy (node.change segment update) := by
  rw [Node.change]
  by_cases wild : segment = wildcard
  · rw [if_pos wild]
    rw [segmentName, if_pos wild] at keeps
    refine .intro ⟨tidy.here.distinct, tidy.here.named, ?_⟩ ?_
    · rintro _ ⟨⟩
      cases found : node.items with
      | none => exact keeps _ rfl
      | some items => exact keeps items (tidy.here.unnamed items found)
    · rintro other (member | ⟨⟨⟩⟩)
      · exact tidy.child member
      · apply tidies
        cases found : node.items with
        | none => exact .of_leaf rfl rfl
        | some items => exact tidy.held (.items found)
  · rw [if_neg wild]
    rw [segmentName_of_ne wild] at keeps
    refine .intro ⟨?_, ?_, tidy.here.unnamed⟩ ?_
    · change ((changeNamed segment update node.children).map name).Nodup
      rw [map_name_changeNamed keeps]
      split
      · exact tidy.here.distinct
      · rename_i missing
        rw [List.nodup_append]
        refine ⟨tidy.here.distinct, by simp, ?_⟩
        intro known member made last same
        rw [List.mem_singleton] at last
        exact missing (last ▸ same ▸ member)
    · intro child member
      rcases mem_changeNamed member with old | ⟨known, _, found, rfl⟩ | rfl
      · exact tidy.here.named child old
      · exact ⟨segment, wild, keeps known found⟩
      · exact ⟨segment, wild, keeps _ rfl⟩
    · rintro other (member | items)
      · rcases mem_changeNamed member with old | ⟨known, old, _, rfl⟩ | rfl
        · exact tidy.child old
        · exact tidies known (tidy.child old)
        · exact tidies _ (.of_leaf rfl rfl)
      · exact tidy.held (.items items)

end

theorem change_label (segment : String) (update : Node → Node) (node : Node) :
    (node.change segment update).label = node.label := by
  rw [Node.change]
  split <;> rfl

theorem change_name (segment : String) (update : Node → Node) (node : Node) :
    (node.change segment update).name = node.name := by
  rw [Node.change]
  split <;> rfl

/-! Putting a node in its place changes the place to that node. -/

/-- The node that comes to stand in a place. -/
def settle (segment : String) (node : Node) (existing : Option Node) : Node :=
  match existing with
  | none => node.rename (segmentName segment)
  | some existing => (node.rename (segmentName segment)).adopt existing

theorem settle_name (segment : String) (node : Node) (existing : Option Node) :
    (settle segment node existing).name = segmentName segment := by
  cases existing <;> rfl

theorem settle_label (segment : String) (node : Node) (existing : Option Node) :
    (settle segment node existing).label = node.label.over (existing.map label) := by
  cases existing <;> rfl

theorem put_eq_changeNamed {node : Node} {segment : String} (named : node.name = some segment)
    (children : List Node) : put node children = changeNamed segment (fun _ => node) children := by
  induction children with
  | nil => rfl
  | cons child rest induction => rw [put, changeNamed, induction, named]

theorem place_eq_change (parent : Node) (segment : String) (node : Node) :
    parent.place segment node =
      parent.change segment fun _ => settle segment node (parent.at? segment) := by
  have placed : parent.place segment node =
      if segment = wildcard then
        { parent with items := some (settle segment node (parent.at? segment)) }
      else parent.addChild (settle segment node (parent.at? segment)) := rfl
  rw [placed, Node.change]
  by_cases wild : segment = wildcard
  · rw [if_pos wild, if_pos wild]
  · rw [if_neg wild, if_neg wild, addChild, put_eq_changeNamed]
    rw [settle_name, segmentName_of_ne wild]

theorem insert_label (node : Node) (path : List String) (root : Node) :
    (insert node path root).label = root.label := by
  match path with
  | [] => rfl
  | [segment] => rw [insert, place_eq_change, change_label]
  | segment :: next :: rest => rw [insert, change_label]

theorem insert_name (node : Node) (path : List String) (root : Node) :
    (insert node path root).name = root.name := by
  match path with
  | [] => rfl
  | [segment] => rw [insert, place_eq_change, change_name]
  | segment :: next :: rest => rw [insert, change_name]

/-- The node that comes to stand at the first segment of a path. -/
def arrive (leaf : Node) (segment : String) (rest : List String) (existing : Option Node) :
    Node :=
  match rest with
  | [] => settle segment leaf existing
  | next :: rest =>
      insert leaf (next :: rest) ((existing.getD { name := segmentName segment }).holding next)

theorem at?_insert (leaf : Node) (segment first : String) (rest : List String) (root : Node) :
    (insert leaf (segment :: rest) root).at? first =
      if first = segment then some (arrive leaf segment rest (root.at? segment))
      else root.at? first := by
  cases rest with
  | nil =>
      rw [insert, place_eq_change]
      exact at?_change (fun _ _ => settle_name ..) first root
  | cons next rest =>
      rw [insert]
      refine at?_change (fun node named => ?_) first root
      rw [insert_name]
      exact named

/-! Labels along a path. -/

theorem label?_nil (node : Node) : node.label? [] = some node.label := rfl

theorem label?_cons (segment : String) (path : List String) (node : Node) :
    node.label? (segment :: path) = (node.at? segment).bind (label? path) := by
  rw [label?, reach?_cons, Option.map_bind]
  rfl

theorem label?_of_same_below {node other : Node} (children : other.children = node.children)
    (items : other.items = node.items) {path : List String} (below : path ≠ []) :
    other.label? path = node.label? path := by
  cases path with
  | nil => exact absurd rfl below
  | cons segment path => rw [label?_cons, label?_cons, at?_of_same_below children items]

theorem label?_holding (node : Node) (next : String) {path : List String} (below : path ≠ []) :
    (node.holding next).label? path = node.label? path :=
  label?_of_same_below (show (node.holding next).children = node.children from rfl) rfl below

/-- Nothing lies below a node that holds nothing. -/
theorem label?_of_leaf {node : Node} (children : node.children = []) (items : node.items = none)
    {path : List String} (below : path ≠ []) : node.label? path = none := by
  cases path with
  | nil => exact absurd rfl below
  | cons segment path =>
      rw [label?_cons, at?]
      split
      · rw [items]
        rfl
      · rw [child?, children]
        rfl

theorem label?_singleton (segment : String) (node : Node) :
    node.label? [segment] = (node.at? segment).map label := by
  rw [label?_cons]
  cases node.at? segment <;> rfl

/-- Looking below a node that may be missing, or below an empty one in its stead. -/
theorem label?_of_getD {segment : String} {root stead : Node} {path : List String}
    (below : path ≠ []) (children : stead.children = []) (items : stead.items = none) :
    ((root.at? segment).getD stead).label? path = root.label? (segment :: path) := by
  rw [label?_cons]
  cases root.at? segment with
  | none => exact label?_of_leaf children items below
  | some existing => rfl

theorem typeThrough?_cons_self (segment : String) (place path : List String) :
    typeThrough? (segment :: place) (segment :: path) = typeThrough? place path := by
  simp [typeThrough?]

theorem typeThrough?_cons_of_ne {segment next : String} (different : segment ≠ next)
    (place path : List String) : typeThrough? (segment :: place) (next :: path) = none := by
  simp [typeThrough?, different]

section

variable {leaf : Node} (children : leaf.children = []) (items : leaf.items = none)

include children items

theorem settle_of_leaf (segment : String) (existing : Option Node) :
    (settle segment leaf existing).children = (existing.getD {}).children ∧
      (settle segment leaf existing).items = (existing.getD {}).items := by
  cases existing with
  | none => exact ⟨children, items⟩
  | some existing => simp [settle, adopt, rename, children, items]

theorem Tidy.insert {root : Node} (tidy : Tidy root) (path : List String) :
    Tidy (insert leaf path root) := by
  induction path generalizing root with
  | nil => exact tidy
  | cons segment rest induction =>
      cases rest with
      | nil =>
          rw [Node.insert, place_eq_change]
          have settled : Tidy (settle segment leaf (root.at? segment)) := by
            have same := settle_of_leaf children items segment (root.at? segment)
            have below : Tidy ((root.at? segment).getD {}) := by
              cases found : root.at? segment with
              | none => exact .of_leaf rfl rfl
              | some existing => exact tidy.held (holds_of_at? found)
            exact below.of_same_below same.1 same.2
          exact tidy.change segment (fun _ _ => settle_name ..) fun _ _ => settled
      | cons next rest =>
          rw [Node.insert]
          refine tidy.change segment ?_ ?_
          · intro node named
            rw [insert_name]
            exact named
          · intro node below
            exact induction (below.of_same_below rfl rfl)

/-- The labels after a node was put at the end of a path: that of the node itself, those of
the nodes that the path leads through, and all others as before. -/
theorem label?_insert {path other : List String} (aim : path ≠ []) (below : other ≠ [])
    (root : Node) :
    (insert leaf path root).label? other =
      if other = path then some (leaf.label.over (root.label? path))
      else match typeThrough? other path with
        | some type => some (((root.label? other).getD {}).holding type)
        | none => root.label? other := by
  induction path generalizing other root with
  | nil => exact absurd rfl aim
  | cons segment rest induction =>
      obtain ⟨first, place, rfl⟩ := List.exists_cons_of_ne_nil below
      rw [label?_cons, at?_insert]
      -- Only below `segment` can anything change; there the induction goes on
      -- unless one of the two paths ends.
      by_cases same : first = segment
      · subst first
        rw [if_pos rfl, Option.bind_some, typeThrough?_cons_self]
        cases rest with
        | nil =>
            cases place with
            | nil =>
                rw [if_pos rfl, label?_singleton]
                exact congrArg some (settle_label ..)
            | cons second place =>
                have settled := settle_of_leaf children items segment (root.at? segment)
                rw [if_neg (by simp), arrive, label?_of_same_below settled.1 settled.2 (by simp),
                  label?_of_getD (by simp) rfl rfl]
                rfl
        | cons next rest =>
            cases place with
            | nil =>
                rw [if_neg (by simp), label?_nil, arrive, insert_label, label?_singleton]
                cases root.at? segment <;> rfl
            | cons second place =>
                have known {path : List String} (below : path ≠ []) :
                    (((root.at? segment).getD
                      { name := segmentName segment }).holding next).label? path =
                      root.label? (segment :: path) := by
                  rw [label?_holding _ _ below, label?_of_getD below rfl rfl]
                rw [arrive, induction (by simp) (by simp), known (by simp), known (by simp)]
                simp only [List.cons.injEq, true_and]
      · rw [if_neg same, if_neg (by simp [same]), typeThrough?_cons_of_ne same, label?_cons]

end

end RouteDocs.Schema.Node
