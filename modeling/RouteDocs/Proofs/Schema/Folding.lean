import Mathlib.Data.List.Induction
import RouteDocs.Proofs.Schema.Insertion
import RouteDocs.Proofs.Text.Pieces

/-!
The tree of fields in closed form. What the tree says at a path follows from the field of
that path, if there is one, and from the first field whose path leads through it.
-/

namespace RouteDocs.Schema.Node

theorem named?_eq_some {type : Option FieldType} {named : FieldType} :
    FieldType.named? type = some named ↔ type = some named ∧ named.isBlank = false := by
  simp [FieldType.named?, Option.filter_eq_some_iff]

/-- The field whose path is the given one. -/
def declared? (fields : List Field) (path : List String) : Option Field :=
  fields.find? fun f => segments f.name == path

/-- The type that the first longer path asks for. -/
def led? (fields : List Field) (path : List String) : Option FieldType :=
  fields.findSome? fun f => typeThrough? path (segments f.name)

/-- The type that a field and the longer paths make. -/
def composeType (declared led : Option FieldType) : Option FieldType :=
  ((FieldType.named? declared).or led).or declared

/-- The label that the field of a path and the longer ones make. -/
def compose : Option Field → Option FieldType → Option Label
  | some f, led => some { type := composeType f.type led, details := detailsOf f }
  | none, some type => some { type := some type }
  | none, none => none

def labelOf? (fields : List Field) (path : List String) : Option Label :=
  compose (declared? fields path) (led? fields path)

theorem holderType_not_blank (next : String) : (holderType next).isBlank = false := by
  rw [holderType]
  split <;> rfl

theorem typeThrough?_not_blank {place path : List String} {type : FieldType}
    (through : typeThrough? place path = some type) : type.isBlank = false := by
  fun_induction typeThrough? place path with
  | case1 next rest =>
      cases through
      exact holderType_not_blank next
  | case2 _ _ _ induction => exact induction through
  | case3 => cases through
  | case4 => cases through

theorem typeThrough?_eq_some {place path : List String} {type : FieldType} :
    typeThrough? place path = some type ↔
      ∃ next, place ++ [next] <+: path ∧ type = holderType next := by
  fun_induction typeThrough? place path with
  | case1 next rest => simp [eq_comm]
  | case2 segment place path induction => simp [induction]
  | case3 segment place next path different => simp [different]
  | case4 place => simp

/-- A path leads through the places that are proper beginnings of it. -/
theorem typeThrough?_isSome {place path : List String} :
    (typeThrough? place path).isSome ↔ place <+: path ∧ place ≠ path := by
  fun_induction typeThrough? place path with
  | case1 next rest => simp
  | case2 segment place path induction => simp [induction]
  | case3 segment place next path different => simp [different]
  | case4 place =>
      cases place <;> simp

theorem led?_not_blank {fields : List Field} {path : List String} {type : FieldType}
    (led : led? fields path = some type) : type.isBlank = false := by
  obtain ⟨f, _, through⟩ := List.exists_of_findSome?_eq_some led
  exact typeThrough?_not_blank through

theorem labelOf?_isSome {fields : List Field} {path : List String} :
    (labelOf? fields path).isSome ↔ ∃ f ∈ fields, path <+: segments f.name := by
  have known : (labelOf? fields path).isSome ↔
      (declared? fields path).isSome ∨ (led? fields path).isSome := by
    rw [labelOf?]
    cases declared? fields path <;> cases led? fields path <;> simp [compose]
  rw [known, declared?, led?, List.find?_isSome, List.isSome_findSome?]
  constructor
  · rintro (⟨f, member, same⟩ | some)
    · exact ⟨f, member, eq_of_beq same ▸ List.prefix_rfl⟩
    · obtain ⟨f, member, through⟩ := List.any_eq_true.mp some
      exact ⟨f, member, (typeThrough?_isSome.mp through).1⟩
  · rintro ⟨f, member, start⟩
    by_cases same : path = segments f.name
    · exact .inl ⟨f, member, by simp [same]⟩
    · exact .inr (List.any_eq_true.mpr ⟨f, member, typeThrough?_isSome.mpr ⟨start, same⟩⟩)

/-! One field more. -/

theorem named?_composeType (declared : Option FieldType) {led : Option FieldType}
    (named : ∀ type, led = some type → type.isBlank = false) :
    FieldType.named? (composeType declared led) = (FieldType.named? declared).or led := by
  rw [composeType]
  cases first : FieldType.named? declared with
  | some type => exact named?_eq_some.mpr ⟨rfl, (named?_eq_some.mp first).2⟩
  | none =>
      cases led with
      | none => exact first
      | some type => exact named?_eq_some.mpr ⟨rfl, named type rfl⟩

theorem led_of_untyped {declared : Option Field} {led : Option FieldType} {known : Label}
    (composed : compose declared led = some known) (untyped : known.type = none) : led = none := by
  cases led with
  | none => rfl
  | some type =>
      cases declared with
      | none =>
          cases composed
          cases untyped
      | some f =>
          cases composed
          simp only [composeType] at untyped
          cases named : FieldType.named? f.type <;> simp [named] at untyped

theorem composeType_none (declared : Option FieldType) : composeType declared none = declared := by
  rw [composeType]
  cases first : FieldType.named? declared with
  | none => rfl
  | some type => exact (named?_eq_some.mp first).1.symm

theorem over_compose_none (f : Field) (led : Option FieldType) :
    some ((ofField f).label.over (compose none led)) = compose (some f) led := by
  cases led with
  | none => rw [compose, compose, composeType_none, Label.over, label, ofField]
  | some type =>
      have composed : composeType f.type (some type) = (FieldType.named? f.type).or (some type) := by
        rw [composeType]
        cases FieldType.named? f.type <;> rfl
      rw [compose, compose, composed, Label.over, label, ofField]

theorem holding_compose (declared : Option Field) {led : Option FieldType} (type : FieldType)
    (named : ∀ type, led = some type → type.isBlank = false) :
    some (((compose declared led).getD {}).holding type) =
      compose declared (led.or (some type)) := by
  cases declared with
  | none =>
      cases led with
      | none => rfl
      | some known =>
          have kept : FieldType.named? (some known) = some known :=
            named?_eq_some.mpr ⟨rfl, named known rfl⟩
          rw [compose, Option.getD_some, Label.holding, kept]
          rfl
  | some f =>
      have held : some ((FieldType.named? (composeType f.type led)).getD type) =
          composeType f.type (led.or (some type)) := by
        rw [named?_composeType _ named, composeType]
        cases FieldType.named? f.type <;> cases led <;> rfl
      rw [compose, Option.getD_some, Label.holding, held, compose]

/-- The tree of fields before the missing types are filled in. -/
def fold (fields : List Field) : Node :=
  fields.foldl insertField { type := some .object }

theorem fold_concat (fields : List Field) (f : Field) :
    fold (fields ++ [f]) = insert (ofField f) (segments f.name) (fold fields) :=
  List.foldl_concat insertField _ f fields

theorem label_fold (fields : List Field) : (fold fields).label = { type := some .object } := by
  induction fields using List.reverseRecOn with
  | nil => rfl
  | append_singleton fields f induction => rw [fold_concat, insert_label, induction]

theorem name_fold (fields : List Field) : (fold fields).name = none := by
  induction fields using List.reverseRecOn with
  | nil => rfl
  | append_singleton fields f induction => rw [fold_concat, insert_name, induction]

theorem tidy_fold (fields : List Field) : Tidy (fold fields) := by
  induction fields using List.reverseRecOn with
  | nil => exact .of_leaf rfl rfl
  | append_singleton fields f induction =>
      rw [fold_concat]
      exact induction.insert rfl rfl (segments f.name)

theorem segments_injective : Function.Injective segments :=
  Text.split_injective '.'

theorem segments_ne_nil (path : String) : segments path ≠ [] :=
  Text.split_ne_nil '.' path

theorem declared?_of_mem {fields : List Field} (distinct : (fields.map Field.name).Nodup)
    {f : Field} (member : f ∈ fields) : declared? fields (segments f.name) = some f := by
  have apart : ((fields.map Field.name).map segments).Nodup := distinct.map segments_injective
  rw [List.map_map] at apart
  exact Keys.find?_of_mem apart member

theorem label?_fold {fields : List Field} (distinct : (fields.map Field.name).Nodup)
    {path : List String} (below : path ≠ []) :
    (fold fields).label? path = labelOf? fields path := by
  induction fields using List.reverseRecOn generalizing path with
  | nil => exact label?_of_leaf rfl rfl below
  | append_singleton fields f induction =>
      rw [List.map_append, List.nodup_append] at distinct
      obtain ⟨distinct, _, apart⟩ := distinct
      have grown : labelOf? (fields ++ [f]) path = compose (declared? (fields ++ [f]) path)
          ((led? fields path).or (typeThrough? path (segments f.name))) := by
        simp [labelOf?, led?, List.findSome?_append]
      rw [fold_concat, label?_insert rfl rfl (segments_ne_nil f.name) below,
        induction distinct (segments_ne_nil f.name), induction distinct below, grown]
      by_cases same : path = segments f.name
      · have fresh : declared? fields path = none := by
          rw [declared?, List.find?_eq_none]
          intro other member found
          exact apart _ (List.mem_map_of_mem member) f.name (by simp)
            (segments_injective ((eq_of_beq found).trans same))
        have declared : declared? (fields ++ [f]) path = some f := by
          rw [declared?] at fresh
          rw [declared?, List.find?_append, fresh]
          simp [same]
        have through : typeThrough? path (segments f.name) = none := by
          rw [← Option.not_isSome_iff_eq_none, typeThrough?_isSome]
          exact fun longer => longer.2 same
        rw [if_pos same, declared, through, Option.or_none, ← same, labelOf?, fresh]
        exact over_compose_none f (led? fields path)
      · have declared : declared? (fields ++ [f]) path = declared? fields path := by
          rw [declared?, declared?, List.find?_append]
          simp [Ne.symm same]
        rw [if_neg same, declared]
        cases typeThrough? path (segments f.name) with
        | none => rw [Option.or_none, labelOf?]
        | some type => exact holding_compose _ type fun _ => led?_not_blank

/-! Filling in the types that are missing. -/

theorem fillTypesAll_eq_map (default : FieldType) (children : List Node) :
    fillTypesAll default children = children.map (fillTypes default) := by
  induction children with
  | nil => rfl
  | cons child rest induction => rw [fillTypesAll, induction, List.map_cons]

theorem fillTypesItems_eq_map (default : FieldType) (items : Option Node) :
    fillTypesItems default items = items.map (fillTypes default) := by
  cases items <;> rfl

theorem fillTypes_eq (default : FieldType) (node : Node) :
    fillTypes default node =
      { node with
        type := some (node.type.getD
          (if !node.children.isEmpty then .object
            else if node.items.isSome then .array else default))
        children := node.children.map (fillTypes default)
        items := node.items.map (fillTypes default) } := by
  obtain ⟨name, type, details, children, items⟩ := node
  cases type <;> simp [fillTypes, fillTypesAll_eq_map, fillTypesItems_eq_map]

theorem at?_fillTypes (default : FieldType) (segment : String) (node : Node) :
    (fillTypes default node).at? segment = (node.at? segment).map (fillTypes default) := by
  rw [at?, at?, fillTypes_eq]
  split
  · rfl
  · rw [child?, child?, List.find?_map]
    have same : ((fun child : Node => child.name == some segment) ∘ fillTypes default) =
        fun child => child.name == some segment := by
      funext child
      rw [Function.comp_apply, fillTypes_eq]
    rw [same]

theorem reach?_fillTypes (default : FieldType) (path : List String) (node : Node) :
    (fillTypes default node).reach? path = (node.reach? path).map (fillTypes default) := by
  induction path generalizing node with
  | nil => rfl
  | cons segment path induction =>
      rw [reach?_cons, reach?_cons, at?_fillTypes]
      cases node.at? segment with
      | none => rfl
      | some below => exact induction below

theorem Tidy.fillTypes {node : Node} (tidy : Tidy node) (default : FieldType) :
    Tidy (fillTypes default node) := by
  have name_fillTypes (node : Node) : (Node.fillTypes default node).name = node.name := by
    rw [fillTypes_eq]
  induction tidy with
  | @intro node here _ induction =>
      rw [fillTypes_eq]
      refine .intro ⟨?_, ?_, ?_⟩ ?_
      · have names : (node.children.map (Node.fillTypes default)).map name =
            node.children.map name := by
          rw [List.map_map]
          exact List.map_congr_left fun child _ => name_fillTypes child
        exact names ▸ here.distinct
      · intro child filled
        obtain ⟨known, member, rfl⟩ := List.mem_map.mp filled
        rw [name_fillTypes]
        exact here.named known member
      · intro items filled
        obtain ⟨known, found, rfl⟩ := Option.map_eq_some_iff.mp filled
        rw [name_fillTypes]
        exact here.unnamed known found
      · rintro other (filled | filled)
        · obtain ⟨known, member, rfl⟩ := List.mem_map.mp filled
          exact induction known (.child member)
        · obtain ⟨known, found, rfl⟩ := Option.map_eq_some_iff.mp filled
          exact induction known (.items found)

theorem ofFields_eq (fields : List Field) (default : FieldType) :
    ofFields fields default = fillTypes default (fold fields) := rfl

theorem tidy_ofFields (fields : List Field) (default : FieldType) :
    Tidy (ofFields fields default) :=
  (tidy_fold fields).fillTypes default

theorem label_ofFields (fields : List Field) (default : FieldType) :
    (ofFields fields default).label = { type := some .object } := by
  have typed : (fold fields).type = some .object := congrArg Label.type (label_fold fields)
  have details : (fold fields).details = {} := congrArg Label.details (label_fold fields)
  rw [ofFields_eq, fillTypes_eq, label, typed, details]
  rfl

theorem name_ofFields (fields : List Field) (default : FieldType) :
    (ofFields fields default).name = none := by
  rw [ofFields_eq, fillTypes_eq]
  exact name_fold fields

theorem leaf_of_untyped {fields : List Field} (distinct : (fields.map Field.name).Nodup)
    {path : List String} (below : path ≠ []) {node : Node}
    (reached : (fold fields).reach? path = some node) (untyped : node.type = none) :
    node.children = [] ∧ node.items = none := by
  have labelled : labelOf? fields path = some node.label := by
    rw [← label?_fold distinct below, label?, reached, Option.map_some]
  have unled : led? fields path = none := led_of_untyped labelled untyped
  have bare (other : Node) : ¬ Holds node other := by
    intro holds
    obtain ⟨segment, found, _⟩ :=
      ((tidy_fold fields).under (under_of_reach? reached)).here.at?_of_holds holds
    have longer : (labelOf? fields (path ++ [segment])).isSome := by
      rw [← label?_fold distinct (by simp), label?, reach?_append, reached]
      simp [reach?, found]
    obtain ⟨f, member, start⟩ := labelOf?_isSome.mp longer
    have through : typeThrough? path (segments f.name) = none :=
      List.findSome?_eq_none_iff.mp unled f member
    have passes : (typeThrough? path (segments f.name)).isSome := by
      refine typeThrough?_isSome.mpr ⟨(List.prefix_append path [segment]).trans start, ?_⟩
      intro same
      have shorter := start.length_le
      rw [← same, List.length_append, List.length_singleton] at shorter
      omega
    rw [through] at passes
    cases passes
  refine ⟨List.eq_nil_iff_forall_not_mem.mpr fun child member => bare child (.child member), ?_⟩
  cases found : node.items with
  | none => rfl
  | some items => exact absurd (.items found) (bare items)

theorem label?_ofFields {fields : List Field} (distinct : (fields.map Field.name).Nodup)
    (default : FieldType) {path : List String} (below : path ≠ []) :
    (ofFields fields default).label? path =
      (labelOf? fields path).map fun known =>
        { known with type := some (known.type.getD default) } := by
  rw [← label?_fold distinct below, ofFields_eq, label?, label?, reach?_fillTypes]
  cases reached : (fold fields).reach? path with
  | none => rfl
  | some node =>
      simp only [Option.map_some, label, fillTypes_eq]
      cases typed : node.type with
      | some type => rfl
      | none =>
          obtain ⟨children, items⟩ := leaf_of_untyped distinct below reached typed
          simp [children, items]

end RouteDocs.Schema.Node
