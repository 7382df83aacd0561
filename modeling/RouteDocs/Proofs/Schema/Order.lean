import Mathlib.Data.List.Infix
import RouteDocs.Proofs.Schema.Folding
import RouteDocs.Proofs.Value.Entries
import RouteDocs.Schema.Render

/-!
The order of fields only tells in the order of siblings. Trees that say the same at every
path are alike, and trees that are alike are shown alike.
-/

namespace RouteDocs.Schema.Node

mutual

/-- Equal up to the order of siblings. -/
def Alike : Node → Node → Prop
  | ⟨name, type, details, children, items⟩, other =>
      name = other.name ∧ type = other.type ∧ details = other.details ∧
        AlikeChildren children other.children ∧ AlikeItems items other.items

def AlikeChildren : List Node → List Node → Prop
  | [], others => others = []
  | child :: rest, others =>
      ∃ other remaining, others.Perm (other :: remaining) ∧ Alike child other ∧
        AlikeChildren rest remaining

def AlikeItems : Option Node → Option Node → Prop
  | none, other => other = none
  | some items, other => ∃ found, other = some found ∧ Alike items found

end

/-! Trees that say the same. -/

/-- Children as a tidy node has them. -/
structure Siblings (children : List Node) : Prop where
  distinct : (children.map name).Nodup
  named : ∀ child ∈ children, ∃ segment, segment ≠ wildcard ∧ child.name = some segment
  tidy : ∀ child ∈ children, Tidy child

theorem Tidy.siblings {node : Node} (tidy : Tidy node) : Siblings node.children :=
  ⟨tidy.here.distinct, tidy.here.named, fun _ member => tidy.child member⟩

theorem Siblings.perm {children others : List Node} (siblings : Siblings children)
    (perm : children.Perm others) : Siblings others :=
  ⟨(perm.map name).nodup siblings.distinct,
    fun child member => siblings.named child (perm.symm.subset member),
    fun child member => siblings.tidy child (perm.symm.subset member)⟩

theorem Siblings.tail {child : Node} {rest : List Node} (siblings : Siblings (child :: rest)) :
    Siblings rest :=
  ⟨(List.nodup_cons.mp siblings.distinct).2,
    fun child member => siblings.named child (List.mem_cons_of_mem _ member),
    fun child member => siblings.tidy child (List.mem_cons_of_mem _ member)⟩

theorem Siblings.find?_tail {child : Node} {rest : List Node} {segment : String}
    (siblings : Siblings (child :: rest)) (named : child.name = some segment) :
    (rest.find? fun other => other.name == some segment) = none := by
  rw [List.find?_eq_none]
  intro other member same
  have distinct := siblings.distinct
  rw [List.map_cons, List.nodup_cons] at distinct
  exact distinct.1 (named.trans (eq_of_beq same).symm ▸ List.mem_map_of_mem member)

mutual

theorem alike_of_labels :
    (node other : Node) → Tidy node → Tidy other → node.name = other.name →
      (∀ path, node.label? path = other.label? path) → Alike node other
  | ⟨name, type, details, children, items⟩, other, tidy, otherTidy, named, same => by
      have here : Label.mk type details = other.label := Option.some.inj (same [])
      refine ⟨named, congrArg Label.type here, congrArg Label.details here, ?_, ?_⟩
      · refine alikeChildren_of_labels children other.children tidy.siblings otherTidy.siblings ?_
        intro segment named path
        have below := same (segment :: path)
        rwa [label?_cons, label?_cons, at?, at?, if_neg named, if_neg named] at below
      · refine alikeItems_of_labels items other.items
          (fun found hung => ⟨tidy.held (.items hung), tidy.here.unnamed found hung⟩)
          (fun found hung => ⟨otherTidy.held (.items hung), otherTidy.here.unnamed found hung⟩) ?_
        intro path
        have below := same (wildcard :: path)
        rwa [label?_cons, label?_cons, at?, at?, if_pos rfl, if_pos rfl] at below

theorem alikeChildren_of_labels :
    (children others : List Node) → Siblings children → Siblings others →
      (∀ segment, segment ≠ wildcard → ∀ path,
        (children.find? fun child => child.name == some segment).bind (label? path) =
          (others.find? fun child => child.name == some segment).bind (label? path)) →
      AlikeChildren children others
  | [], others, _, siblings, same => by
      cases others with
      | nil => rfl
      | cons other rest =>
          obtain ⟨segment, segmental, named⟩ := siblings.named other (by simp)
          have labelled := same segment segmental []
          simp [named, label?_nil] at labelled
  | child :: rest, others, siblings, otherSiblings, same => by
      obtain ⟨segment, segmental, named⟩ := siblings.named child (by simp)
      have labelled := same segment segmental
      rw [List.find?_cons_of_pos (by simp [named])] at labelled
      cases met : others.find? fun child => child.name == some segment with
      | none =>
          have missing := labelled []
          rw [met] at missing
          cases missing
      | some other =>
          rw [met] at labelled
          -- The namesake is moved to the front, so that the rests can be compared.
          have same_name := List.find?_some met
          have otherNamed : other.name = some segment := eq_of_beq same_name
          obtain ⟨before, after, rfl⟩ := List.append_of_mem (List.mem_of_find?_eq_some met)
          have moved : (before ++ other :: after).Perm (other :: (before ++ after)) :=
            List.perm_middle
          have remaining : Siblings (other :: (before ++ after)) := otherSiblings.perm moved
          refine ⟨other, before ++ after, moved, ?_, ?_⟩
          · exact alike_of_labels child other (siblings.tidy child (by simp))
              (remaining.tidy other (by simp)) (named.trans otherNamed.symm) labelled
          · refine alikeChildren_of_labels rest (before ++ after) siblings.tail remaining.tail ?_
            intro next segmental path
            by_cases again : next = segment
            · rw [again, siblings.find?_tail named, remaining.find?_tail otherNamed]
            · have below := same next segmental path
              rw [List.find?_cons_of_neg (by simpa [named] using Ne.symm again)] at below
              rw [below, List.find?_append, List.find?_append,
                List.find?_cons_of_neg (by simpa [otherNamed] using Ne.symm again)]

theorem alikeItems_of_labels :
    (items others : Option Node) →
      (∀ found, items = some found → Tidy found ∧ found.name = none) →
      (∀ found, others = some found → Tidy found ∧ found.name = none) →
      (∀ path, items.bind (label? path) = others.bind (label? path)) → AlikeItems items others
  | none, others, _, _, same => by
      cases others with
      | none => rfl
      | some found => cases same []
  | some items, others, tidy, otherTidy, same => by
      cases others with
      | none => cases same []
      | some found =>
          obtain ⟨itemsTidy, itemsName⟩ := tidy items rfl
          obtain ⟨foundTidy, foundName⟩ := otherTidy found rfl
          exact ⟨found, rfl, alike_of_labels items found itemsTidy foundTidy
            (itemsName.trans foundName.symm) same⟩

end

/-! Trees that are alike are shown alike. -/

mutual

/-- Schema objects that are equal up to the order of properties and of the names of the
required ones. -/
inductive Reordered : Value → Value → Prop
  | object {entries others : Entries} (inside : ReorderedEntries entries others) :
      Reordered (.map entries) (.map others)

inductive ReorderedEntries : Entries → Entries → Prop
  | nil : ReorderedEntries [] []
  | same {rest others : Entries} (first : Value × Value) (later : ReorderedEntries rest others) :
      ReorderedEntries (first :: rest) (first :: others)
  | properties {rest others properties otherProperties : Entries}
      (inside : ReorderedProperties properties otherProperties)
      (later : ReorderedEntries rest others) :
      ReorderedEntries (entry "properties" (.map properties) :: rest)
        (entry "properties" (.map otherProperties) :: others)
  | required {rest others : Entries} {names otherNames : List Value}
      (perm : names.Perm otherNames) (later : ReorderedEntries rest others) :
      ReorderedEntries (entry "required" (.list names) :: rest)
        (entry "required" (.list otherNames) :: others)
  | items {rest others : Entries} {items otherItems : Value}
      (inside : Reordered items otherItems) (later : ReorderedEntries rest others) :
      ReorderedEntries (entry "items" items :: rest) (entry "items" otherItems :: others)

inductive ReorderedProperties : Entries → Entries → Prop
  | nil : ReorderedProperties [] []
  | cons {rest others remaining : Entries} {name shown otherShown : Value}
      (moved : others.Perm ((name, otherShown) :: remaining))
      (inside : Reordered shown otherShown) (later : ReorderedProperties rest remaining) :
      ReorderedProperties ((name, shown) :: rest) others

end

theorem ReorderedEntries.refl : (entries : Entries) → ReorderedEntries entries entries
  | [] => .nil
  | first :: rest => .same first (refl rest)

theorem ReorderedEntries.append {entries others rest otherRest : Entries}
    (front : ReorderedEntries entries others) (back : ReorderedEntries rest otherRest) :
    ReorderedEntries (entries ++ rest) (others ++ otherRest) := by
  match front with
  | .nil => exact back
  | .same first later => exact .same first (later.append back)
  | .properties inside later => exact .properties inside (later.append back)
  | .required perm later => exact .required perm (later.append back)
  | .items inside later => exact .items inside (later.append back)

/-! The properties of a tidy node keep the order of its children. -/

theorem propertiesOf_eq_map (children : List Node) :
    propertiesOf children = children.map fun child => (nameValue child.name, child.toOpenApi) := by
  induction children with
  | nil => rfl
  | cons child rest induction => rw [propertiesOf, induction, List.map_cons]

/-- Every child has a name, and no two have the same. -/
structure Titled (children : List Node) : Prop where
  distinct : (children.map name).Nodup
  named : ∀ child ∈ children, ∃ key, child.name = some key

theorem Titled.of_names {children : List Node} {names : List String}
    (named : children.map name = names.map some) (distinct : names.Nodup) : Titled children where
  distinct := named ▸ distinct.map fun _ _ => Option.some.inj
  named child member := by
    have among : child.name ∈ names.map some := named ▸ List.mem_map_of_mem member
    obtain ⟨key, _, same⟩ := List.mem_map.mp among
    exact ⟨key, same.symm⟩

theorem Titled.ofEntries_map {children : List Node} (titled : Titled children)
    (show_ : Node → Value) :
    Value.ofEntries (children.map fun child => (nameValue child.name, show_ child)) =
      children.map fun child => (nameValue child.name, show_ child) := by
  apply Value.ofEntries_of_distinct
  rw [List.pairwise_map]
  refine (List.pairwise_map.mp titled.distinct).imp_of_mem ?_
  intro first second firstMember secondMember different
  obtain ⟨key, named⟩ := titled.named first firstMember
  obtain ⟨other, otherNamed⟩ := titled.named second secondMember
  rw [named, otherNamed] at different
  rw [named, otherNamed, nameValue, nameValue, Value.same_text]
  simpa using different

theorem Titled.ofEntries_propertiesOf {children : List Node} (titled : Titled children) :
    Value.ofEntries (propertiesOf children) = propertiesOf children := by
  rw [propertiesOf_eq_map]
  exact titled.ofEntries_map toOpenApi

theorem Siblings.titled {children : List Node} (siblings : Siblings children) :
    Titled children where
  distinct := siblings.distinct
  named child member := by
    obtain ⟨segment, _, named⟩ := siblings.named child member
    exact ⟨segment, named⟩

theorem AlikeChildren.isEmpty {children others : List Node}
    (alike : AlikeChildren children others) : children.isEmpty = others.isEmpty := by
  cases children with
  | nil =>
      rw [AlikeChildren] at alike
      rw [alike]
  | cons child rest =>
      rw [AlikeChildren] at alike
      obtain ⟨other, remaining, moved, _⟩ := alike
      rw [moved.isEmpty_eq]
      rfl

theorem Alike.name {node other : Node} (alike : Alike node other) : node.name = other.name := by
  cases node
  exact alike.1

theorem Alike.details {node other : Node} (alike : Alike node other) :
    node.details = other.details := by
  cases node
  exact alike.2.2.1

theorem AlikeChildren.requiredNames {children others : List Node}
    (alike : AlikeChildren children others) :
    (requiredNames children).Perm (requiredNames others) := by
  induction children generalizing others with
  | nil =>
      rw [AlikeChildren] at alike
      rw [alike]
  | cons child rest induction =>
      rw [AlikeChildren] at alike
      obtain ⟨other, remaining, moved, same, later⟩ := alike
      have step : (Node.requiredNames (child :: rest)).Perm
          (Node.requiredNames (other :: remaining)) := by
        rw [Node.requiredNames, Node.requiredNames, List.filter_cons, List.filter_cons,
          same.details]
        split
        · rw [List.map_cons, List.map_cons, same.name]
          exact (induction later).cons _
        · exact induction later
      exact step.trans ((moved.filter _).map _).symm

mutual

theorem reordered_toOpenApi :
    (node other : Node) → Alike node other → Tidy node → Tidy other →
      Reordered node.toOpenApi other.toOpenApi
  | ⟨name, type, details, children, items⟩, ⟨otherName, otherType, otherDetails, others, otherItems⟩,
      alike, tidy, otherTidy => by
      obtain ⟨_, rfl, rfl, sameChildren, sameItems⟩ := alike
      rw [toOpenApi, toOpenApi, sameChildren.isEmpty]
      refine .object (((ReorderedEntries.refl _).append ?_ |>.append ?_).append (.refl _))
      · have properties := reordered_propertiesOf children others sameChildren tidy.siblings
          otherTidy.siblings
        rw [objectEntries, objectEntries, sameChildren.isEmpty,
          tidy.siblings.titled.ofEntries_propertiesOf,
          otherTidy.siblings.titled.ofEntries_propertiesOf,
          sameChildren.requiredNames.isEmpty_eq]
        split
        · refine ((ReorderedEntries.refl _).append ?_).append ?_
          · split
            · exact .nil
            · exact .properties properties .nil
          · split
            · exact .nil
            · exact .required sameChildren.requiredNames .nil
        · exact .nil
      · split
        · exact reordered_items items otherItems sameItems
            (fun found hung => tidy.held (.items hung))
            (fun found hung => otherTidy.held (.items hung))
        · exact .nil

theorem reordered_propertiesOf :
    (children others : List Node) → AlikeChildren children others → Siblings children →
      Siblings others → ReorderedProperties (propertiesOf children) (propertiesOf others)
  | [], others, alike, _, _ => by
      rw [AlikeChildren] at alike
      rw [alike]
      exact .nil
  | child :: rest, others, alike, siblings, otherSiblings => by
      rw [AlikeChildren] at alike
      obtain ⟨other, remaining, moved, same, later⟩ := alike
      have arranged := otherSiblings.perm moved
      have shown : (propertiesOf others).Perm
          ((nameValue child.name, other.toOpenApi) :: propertiesOf remaining) := by
        rw [same.name, propertiesOf_eq_map, propertiesOf_eq_map]
        exact moved.map _
      exact .cons shown
        (reordered_toOpenApi child other same (siblings.tidy child (by simp))
          (arranged.tidy other (by simp)))
        (reordered_propertiesOf rest remaining later siblings.tail arranged.tail)

theorem reordered_items :
    (items others : Option Node) → AlikeItems items others →
      (∀ found, items = some found → Tidy found) → (∀ found, others = some found → Tidy found) →
      ReorderedEntries [entry "items" (itemsValue items)] [entry "items" (itemsValue others)]
  | none, others, alike, _, _ => by
      rw [AlikeItems] at alike
      rw [alike]
      exact .refl _
  | some items, others, alike, tidy, otherTidy => by
      rw [AlikeItems] at alike
      obtain ⟨found, rfl, same⟩ := alike
      exact .items (reordered_toOpenApi items found same (tidy items rfl) (otherTidy found rfl)) .nil

end

/-! Fields in another order. -/

/-- No place but the root has both items and a child with a name. -/
def Unmixed (fields : List Field) : Prop :=
  ∀ path, path ≠ [] → ∀ f ∈ fields, path ++ [wildcard] <+: segments f.name →
    ∀ g ∈ fields, ∀ segment, path ++ [segment] <+: segments g.name → segment = wildcard

instance (fields : List Field) : Decidable (Unmixed fields) :=
  decidable_of_iff
    (∀ f ∈ fields, ∀ path ∈ (segments f.name).inits, path ≠ [] →
      path ++ [wildcard] <+: segments f.name →
        ∀ g ∈ fields, ∀ segment ∈ segments g.name,
          path ++ [segment] <+: segments g.name → segment = wildcard) <| by
    constructor
    · intro bounded path below f member start g other segment otherStart
      have begun : path <+: segments f.name := (List.prefix_append path _).trans start
      have occurs : segment ∈ segments g.name := otherStart.subset (by simp)
      exact bounded f member path ((List.mem_inits _ _).mpr begun) below start g other segment
        occurs otherStart
    · intro unmixed f member path _ below start g other segment _ otherStart
      exact unmixed path below f member start g other segment otherStart

theorem Unmixed.type_eq {fields : List Field} (unmixed : Unmixed fields) {path : List String}
    (below : path ≠ []) {f g : Field} (member : f ∈ fields) (other : g ∈ fields)
    {type otherType : FieldType} (through : typeThrough? path (segments f.name) = some type)
    (otherThrough : typeThrough? path (segments g.name) = some otherType) : type = otherType := by
  obtain ⟨next, start, rfl⟩ := typeThrough?_eq_some.mp through
  obtain ⟨otherNext, otherStart, rfl⟩ := typeThrough?_eq_some.mp otherThrough
  by_cases wild : next = wildcard
  · rw [wild] at start ⊢
    rw [unmixed path below f member start g other otherNext otherStart]
  · have otherTame : otherNext ≠ wildcard := by
      intro otherWild
      rw [otherWild] at otherStart
      exact wild (unmixed path below g other otherStart f member next start)
    rw [holderType, holderType, if_neg wild, if_neg otherTame]

section

variable {fields others : List Field} (perm : fields.Perm others)

include perm

theorem declared?_perm (distinct : (fields.map Field.name).Nodup) (path : List String) :
    declared? fields path = declared? others path := by
  have otherDistinct := (perm.map Field.name).nodup distinct
  by_cases known : ∃ f ∈ fields, segments f.name = path
  · obtain ⟨f, member, rfl⟩ := known
    rw [declared?_of_mem distinct member, declared?_of_mem otherDistinct (perm.subset member)]
  · have missing {members : List Field} (among : members ⊆ fields) :
        declared? members path = none := by
      rw [declared?, List.find?_eq_none]
      intro f member same
      exact known ⟨f, among member, eq_of_beq same⟩
    rw [missing (List.Subset.refl _), missing perm.symm.subset]

theorem led?_perm (unmixed : Unmixed fields) {path : List String} (below : path ≠ []) :
    led? fields path = led? others path := by
  cases led : led? fields path with
  | none =>
      rw [led?, List.findSome?_eq_none_iff] at led
      symm
      rw [led?, List.findSome?_eq_none_iff]
      exact fun f member => led f (perm.symm.subset member)
  | some type =>
      obtain ⟨f, member, through⟩ := List.exists_of_findSome?_eq_some led
      cases otherLed : led? others path with
      | none =>
          rw [led?, List.findSome?_eq_none_iff] at otherLed
          rw [otherLed f (perm.subset member)] at through
          cases through
      | some otherType =>
          obtain ⟨g, other, otherThrough⟩ := List.exists_of_findSome?_eq_some otherLed
          rw [unmixed.type_eq below member (perm.symm.subset other) through otherThrough]

/-- The order in which fields are declared tells in the order of siblings alone, and in the
order of properties and of required names where the tree is shown. -/
theorem ofFields_perm (distinct : (fields.map Field.name).Nodup) (unmixed : Unmixed fields)
    (default : FieldType) :
    Alike (ofFields fields default) (ofFields others default) ∧
      Reordered (ofFields fields default).toOpenApi (ofFields others default).toOpenApi := by
  have otherDistinct := (perm.map Field.name).nodup distinct
  have tidy := tidy_ofFields fields default
  have otherTidy := tidy_ofFields others default
  have alike : Alike (ofFields fields default) (ofFields others default) := by
    refine alike_of_labels _ _ tidy otherTidy ?_ fun path => ?_
    · rw [name_ofFields, name_ofFields]
    · by_cases below : path = []
      · rw [below, label?_nil, label?_nil, label_ofFields, label_ofFields]
      · rw [label?_ofFields distinct default below, label?_ofFields otherDistinct default below,
          labelOf?, labelOf?, declared?_perm perm distinct, led?_perm perm unmixed below]
  exact ⟨alike, reordered_toOpenApi _ _ alike tidy otherTidy⟩

end

/-- A container without a type of its own, declared before what it holds. -/
def untypedContainer : List Field :=
  [{ name := "tags" }, { name := "tags.*.id", type := some .integer, required := true },
   { name := "tags.*.name", required := true }]

theorem perm_untypedContainer :
    untypedContainer.Perm untypedContainer.reverse ∧
      (untypedContainer.map Field.name).Nodup ∧ Unmixed untypedContainer ∧
      Alike (ofFields untypedContainer .string) (ofFields untypedContainer.reverse .string) ∧
      Reordered (ofFields untypedContainer .string).toOpenApi
        (ofFields untypedContainer.reverse .string).toOpenApi := by
  have perm : untypedContainer.Perm untypedContainer.reverse :=
    (List.reverse_perm untypedContainer).symm
  have distinct : (untypedContainer.map Field.name).Nodup := by decide
  have unmixed : Unmixed untypedContainer := by decide
  exact ⟨perm, distinct, unmixed, ofFields_perm perm distinct unmixed .string⟩

end RouteDocs.Schema.Node
